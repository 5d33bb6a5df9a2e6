/-!
# Characters and bytes

The places of the characters of a text, and the bytes of its UTF-8 form that come before them. A cut
of the text at a byte offset fails inside of a character.
-/
namespace PartitionScan

/-- The bytes that the first `i` characters of a text take in UTF-8. -/
def byteOffset (text : List Char) (i : Nat) : Nat :=
  (text.take i).foldr (fun c n => c.utf8Size + n) 0

/-- The number of characters that the first `bytes` bytes of a text in UTF-8 take part in. -/
def placeOfByte : List Char → Nat → Nat
  | [], _ => 0
  | c :: rest, bytes => if bytes = 0 then 0 else placeOfByte rest (bytes - c.utf8Size) + 1

@[simp] theorem byteOffset_zero (text : List Char) : byteOffset text 0 = 0 := rfl

@[simp] theorem placeOfByte_zero (text : List Char) : placeOfByte text 0 = 0 := by
  cases text <;> rfl

@[simp] theorem byteOffset_cons (c : Char) (rest : List Char) (i : Nat) :
    byteOffset (c :: rest) (i + 1) = c.utf8Size + byteOffset rest i := rfl

/-- Between two characters, the bytes before give back the characters before. -/
theorem placeOfByte_byteOffset {text : List Char} {i : Nat} (h : i ≤ text.length) :
    placeOfByte text (byteOffset text i) = i := by
  induction text generalizing i with
  | nil =>
    rw [Nat.le_zero.mp h]
    rfl
  | cons c rest ih =>
    cases i with
    | zero => rw [byteOffset_zero, placeOfByte, if_pos rfl]
    | succ i =>
      have hpos := c.utf8Size_pos
      rw [byteOffset_cons, placeOfByte, if_neg (by omega), Nat.add_sub_cancel_left,
        ih (Nat.le_of_succ_le_succ h)]

/-- Bytes are in the order of the characters they begin. -/
theorem byteOffset_le_iff {text : List Char} {i j : Nat} (hi : i ≤ text.length)
    (hj : j ≤ text.length) : byteOffset text i ≤ byteOffset text j ↔ i ≤ j := by
  induction text generalizing i j with
  | nil => simp [Nat.le_zero.mp hi, Nat.le_zero.mp hj]
  | cons c rest ih =>
    have hpos := c.utf8Size_pos
    cases i with
    | zero => simp
    | succ i =>
      cases j with
      | zero =>
        rw [byteOffset_cons, byteOffset_zero]
        omega
      | succ j =>
        rw [byteOffset_cons, byteOffset_cons, Nat.add_le_add_iff_left,
          ih (Nat.le_of_succ_le_succ hi) (Nat.le_of_succ_le_succ hj), Nat.succ_le_succ_iff]

theorem byteOffset_lt_iff {text : List Char} {i j : Nat} (hi : i ≤ text.length)
    (hj : j ≤ text.length) : byteOffset text i < byteOffset text j ↔ i < j := by
  rw [← Nat.not_le, byteOffset_le_iff hj hi, Nat.not_le]

/-- The bytes of one more character. -/
theorem byteOffset_succ {text : List Char} {i : Nat} {c : Char} (h : text[i]? = some c) :
    byteOffset text (i + 1) = byteOffset text i + c.utf8Size := by
  induction text generalizing i with
  | nil => simp at h
  | cons d rest ih =>
    cases i with
    | zero =>
      obtain rfl : d = c := by simpa using h
      simp
    | succ i => rw [byteOffset_cons, byteOffset_cons, ih (by simpa using h), Nat.add_assoc]

def byteLength (text : List Char) : Nat :=
  byteOffset text text.length

/-- Whether a byte offset lies between two characters or at an end of the text. -/
def IsBoundary (text : List Char) (byte : Nat) : Prop :=
  ∃ i ≤ text.length, byteOffset text i = byte

/-- The place of a byte offset that lies between two characters. -/
def boundary? (text : List Char) (byte : Nat) : Option Nat :=
  if byteOffset text (placeOfByte text byte) = byte then some (placeOfByte text byte) else none

def sliceFrom? (text : List Char) (byte : Nat) : Option (List Char) :=
  (boundary? text byte).map text.drop

def slice? (text : List Char) (start finish : Nat) : Option (List Char) := do
  let i ← boundary? text start
  let j ← boundary? text finish
  if i ≤ j then some ((text.drop i).take (j - i)) else none

def nextBoundary? (text : List Char) (byte : Nat) : Option Nat := do
  match ← sliceFrom? text byte with
  | [] => return byteLength text
  | c :: _ => return byte + c.utf8Size

section

variable {text : List Char} {i j : Nat}

theorem byteOffset_of_length_le (h : text.length ≤ i) : byteOffset text i = byteLength text := by
  rw [byteLength, byteOffset, byteOffset, List.take_of_length_le h, List.take_length]

theorem byteOffset_lt_byteLength_iff : byteOffset text i < byteLength text ↔ i < text.length := by
  by_cases h : i ≤ text.length
  · exact byteOffset_lt_iff h (Nat.le_refl _)
  · rw [byteOffset_of_length_le (by omega)]
    omega

theorem byteOffset_le_byteLength (text : List Char) (i : Nat) :
    byteOffset text i ≤ byteLength text := by
  by_cases h : i ≤ text.length
  · exact (byteOffset_le_iff h (Nat.le_refl _)).mpr h
  · exact Nat.le_of_eq (byteOffset_of_length_le (by omega))

theorem byteOffset_mono (h : i ≤ j) : byteOffset text i ≤ byteOffset text j := by
  by_cases hj : j ≤ text.length
  · exact (byteOffset_le_iff (Nat.le_trans h hj) hj).mpr h
  · rw [byteOffset_of_length_le (i := j) (by omega)]
    exact byteOffset_le_byteLength text i

theorem isBoundary_byteOffset (text : List Char) (i : Nat) :
    IsBoundary text (byteOffset text i) := by
  by_cases h : i ≤ text.length
  · exact ⟨i, h, rfl⟩
  · exact ⟨text.length, Nat.le_refl _, (byteOffset_of_length_le (by omega)).symm⟩

theorem IsBoundary.le_byteLength {byte : Nat} (h : IsBoundary text byte) :
    byte ≤ byteLength text := by
  obtain ⟨i, -, rfl⟩ := h
  exact byteOffset_le_byteLength text i

theorem boundary?_byteOffset (h : i ≤ text.length) :
    boundary? text (byteOffset text i) = some i := by
  rw [boundary?, placeOfByte_byteOffset h, if_pos rfl]

theorem slice?_byteOffset (hi : i ≤ j) (hj : j ≤ text.length) :
    slice? text (byteOffset text i) (byteOffset text j) = some ((text.drop i).take (j - i)) := by
  simp [slice?, boundary?_byteOffset (Nat.le_trans hi hj), boundary?_byteOffset hj, hi]

/-- One place further, and no further than the end. -/
theorem nextBoundary?_byteOffset (h : i ≤ text.length) :
    nextBoundary? text (byteOffset text i) = some (byteOffset text (i + 1)) := by
  rw [nextBoundary?, sliceFrom?, boundary?_byteOffset h]
  cases hdrop : text.drop i with
  | nil =>
    have hlength := List.drop_eq_nil_iff.mp hdrop
    simp [hdrop, byteOffset_of_length_le (Nat.le_succ_of_le hlength)]
  | cons c rest =>
    have hc : text[i]? = some c := by rw [← List.head?_drop, hdrop, List.head?_cons]
    simp [hdrop, byteOffset_succ hc]

theorem slice?_isSome {start finish : Nat} (hstart : IsBoundary text start)
    (hfinish : IsBoundary text finish) (hle : start ≤ finish) :
    ∃ chars, slice? text start finish = some chars := by
  obtain ⟨i, hi, rfl⟩ := hstart
  obtain ⟨j, hj, rfl⟩ := hfinish
  exact ⟨_, slice?_byteOffset ((byteOffset_le_iff hi hj).mp hle) hj⟩

theorem nextBoundary?_spec {byte : Nat} (h : IsBoundary text byte) :
    ∃ next, nextBoundary? text byte = some next ∧ IsBoundary text next ∧ byte ≤ next ∧
      (byte < byteLength text → byte < next) := by
  obtain ⟨i, hi, rfl⟩ := h
  refine ⟨_, nextBoundary?_byteOffset hi, isBoundary_byteOffset text _,
    byteOffset_mono (Nat.le_succ i), fun hlt => ?_⟩
  have hlt' := byteOffset_lt_byteLength_iff.mp hlt
  exact (byteOffset_lt_iff hi hlt').mpr (Nat.lt_succ_self i)

theorem byteOffset_max (text : List Char) (i j : Nat) :
    byteOffset text (max i j) = max (byteOffset text i) (byteOffset text j) := by
  rcases Nat.le_total i j with h | h
  · rw [Nat.max_eq_right h, Nat.max_eq_right (byteOffset_mono h)]
  · rw [Nat.max_eq_left h, Nat.max_eq_left (byteOffset_mono h)]

/-- Fewer bytes are left behind a later place. -/
theorem byteLength_sub_lt {text : List Char} {i j : Nat} (hi : i < text.length) (hij : i < j) :
    byteLength text - byteOffset text j < byteLength text - byteOffset text i := by
  have hlt := byteOffset_lt_byteLength_iff.mpr hi
  have hnext := (byteOffset_lt_iff (Nat.le_of_lt hi) hi).mpr (Nat.lt_succ_self i)
  have hmono := @byteOffset_mono text _ _ hij
  omega

end

end PartitionScan
