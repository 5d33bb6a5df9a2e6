import PartitionScan.PartitionMap

/-!
# Maps are tilings

The partitions of a map follow each other from offset 0 without gaps and none is empty, whatever the
spans it is made of. So the partition found at an offset covers it, and all of its offsets find it.
-/
namespace PartitionScan

namespace PartitionMap

/-- Partitions that follow each other from `start` to `finish`, none of them empty. -/
def Tiles : Nat → List Partition → Nat → Prop
  | start, [], finish => start = finish
  | start, p :: rest, finish => p.offset = start ∧ 0 < p.length ∧ Tiles p.finish rest finish

@[simp] theorem tiles_nil (start finish : Nat) : Tiles start [] finish ↔ start = finish := Iff.rfl

@[simp] theorem tiles_cons (start finish : Nat) (p : Partition) (rest : List Partition) :
    Tiles start (p :: rest) finish ↔
      p.offset = start ∧ 0 < p.length ∧ Tiles p.finish rest finish := Iff.rfl

theorem tiles_append {start middle finish : Nat} {front back : List Partition}
    (hfront : Tiles start front middle) (hback : Tiles middle back finish) :
    Tiles start (front ++ back) finish := by
  induction front generalizing start with
  | nil =>
    rw [tiles_nil] at hfront
    rw [hfront]
    exact hback
  | cons p rest ih =>
    obtain ⟨hoffset, hpos, hrest⟩ := hfront
    exact ⟨hoffset, hpos, ih hrest⟩

theorem tiles_gap {start finish : Nat} (h : start ≤ finish) :
    Tiles start (gap start finish) finish := by
  unfold gap
  split
  · simp only [tiles_cons, tiles_nil, Partition.finish, true_and]
    omega
  · rw [tiles_nil]
    omega

/-- Filling the gaps between spans tiles the text at least up to its length. -/
theorem tiles_fill (length start : Nat) (spans : List Partition) :
    ∃ finish, length ≤ finish ∧ Tiles start (fill length start spans) finish := by
  induction spans generalizing start with
  | nil =>
    by_cases h : start ≤ length
    · exact ⟨length, Nat.le_refl length, tiles_gap h⟩
    · refine ⟨start, by omega, ?_⟩
      rw [fill, gap, if_neg (by omega), tiles_nil]
  | cons span rest ih =>
    by_cases h : span.length = 0 ∨ span.offset < start
    · rw [fill, if_pos h]
      exact ih start
    · obtain ⟨finish, hlength, hrest⟩ := ih span.finish
      refine ⟨finish, hlength, ?_⟩
      rw [fill, if_neg h]
      exact tiles_append (tiles_gap (by omega)) ⟨rfl, by omega, hrest⟩

theorem tiles_joinFirst {start finish : Nat} {p : Partition} {rest : List Partition}
    (h : Tiles start (p :: rest) finish) : Tiles start (joinFirst p rest) finish := by
  cases rest with
  | nil => exact h
  | cons q rest =>
    obtain ⟨hp, hpos, hq, hqpos, hrest⟩ := h
    rw [joinFirst]
    split
    · refine ⟨hp, Nat.add_pos_left hpos q.length, ?_⟩
      have hfinish : Partition.finish { p with length := p.length + q.length } = q.finish := by
        simp only [Partition.finish] at hq ⊢
        omega
      rw [hfinish]
      exact hrest
    · exact ⟨hp, hpos, hq, hqpos, hrest⟩

/-- Joining neighbours of one kind keeps the tiling. -/
theorem tiles_join {start finish : Nat} {ps : List Partition} (h : Tiles start ps finish) :
    Tiles start (join ps) finish := by
  induction ps generalizing start with
  | nil => exact h
  | cons p rest ih =>
    obtain ⟨hoffset, hpos, hrest⟩ := h
    exact tiles_joinFirst ⟨hoffset, hpos, ih hrest⟩

theorem tiles_ofSpans (name : String) (length : Nat) (spans : List Partition) :
    ∃ finish, length ≤ finish ∧ Tiles 0 (ofSpans name length spans).partitions finish := by
  obtain ⟨finish, hlength, htiles⟩ := tiles_fill length 0 spans
  exact ⟨finish, hlength, tiles_join htiles⟩

/-- In a tiling, the first partition that ends behind an offset covers it, and is found at all of
its own offsets. -/
theorem find?_tiles {start finish offset : Nat} {ps : List Partition} {p : Partition}
    (h : Tiles start ps finish) (hstart : start ≤ offset)
    (hfind : ps.find? (offset < ·.finish) = some p) :
    start ≤ p.offset ∧ p.offset ≤ offset ∧ offset < p.finish ∧
      ∀ o, p.offset ≤ o → o < p.finish → ps.find? (o < ·.finish) = some p := by
  induction ps generalizing start with
  | nil => cases hfind
  | cons q rest ih =>
    obtain ⟨hoffset, hpos, hrest⟩ := h
    by_cases hq : offset < q.finish
    · rw [List.find?_cons_of_pos (by simpa using hq)] at hfind
      obtain rfl := Option.some.inj hfind
      refine ⟨by omega, by omega, hq, fun o _ ho => ?_⟩
      rw [List.find?_cons_of_pos (by simpa using ho)]
    · rw [List.find?_cons_of_neg (by simpa using hq)] at hfind
      obtain ⟨hle, hcovers, hend, hall⟩ := ih hrest (by omega) hfind
      refine ⟨?_, hcovers, hend, fun o ho ho' => ?_⟩
      · simp only [Partition.finish] at hle
        omega
      · rw [List.find?_cons_of_neg (by simp; omega)]
        exact hall o ho ho'

/-- Within a text of its own length, a map answers with the first partition that ends behind the
offset. -/
theorem partitionAt_eq_ok_iff {m : PartitionMap} {d : Document} (hd : d.length = m.length)
    (hne : m.partitions ≠ []) {offset : Nat} (ho : offset < m.length) (p : Partition) :
    m.partitionAt d offset = .ok p ↔ m.partitions.find? (offset < ·.finish) = some p := by
  obtain ⟨last, hlast⟩ : ∃ last, m.partitions.getLast? = some last := by
    cases h : m.partitions.getLast? with
    | none => exact absurd (List.getLast?_eq_none_iff.mp h) hne
    | some last => exact ⟨last, rfl⟩
  rw [partitionAt, if_neg (by simpa using hd), if_neg (by omega), hlast]
  simp only [if_neg (Nat.ne_of_lt ho)]
  cases m.partitions.find? (offset < ·.finish) with
  | none => simp
  | some q => simp

end PartitionMap

namespace Classifier

/-- A classifier whose answer at an offset covers it and holds at every other offset it covers. -/
def Coherent (c : Classifier) (d : Document) : Prop :=
  ∀ offset p, offset < d.length → c.partitionAt d offset = .ok p →
    p.offset ≤ offset ∧ offset < p.finish ∧
      ∀ o, p.offset ≤ o → o < p.finish → o < d.length → c.partitionAt d o = .ok p

/-- The classifiers at hand: the whole document, a map of any length and any spans of which none
ends behind the offsets, and any one that always fails. -/
inductive Standard : Classifier → Prop
  | whole : Standard Classifier.whole
  | map (name : String) (length : Nat) (spans : List Partition)
      (h : ∀ s ∈ spans, s.finish < offsetLimit) :
      Standard (PartitionMap.ofSpans name length spans).classifier
  | failing (c : Classifier) (h : ∀ d offset, ∃ fault, c.partitionAt d offset = .error fault) :
      Standard c

theorem coherent_whole (d : Document) : whole.Coherent d := by
  intro offset p hoffset hp
  simp only [whole, if_pos (Nat.le_of_lt hoffset), Except.ok.injEq] at hp
  subst hp
  refine ⟨Nat.zero_le offset, by simpa [Partition.finish] using hoffset, fun o _ _ ho => ?_⟩
  simp only [whole, if_pos (Nat.le_of_lt ho)]

theorem coherent_map (name : String) (length : Nat) (spans : List Partition) (d : Document) :
    (PartitionMap.ofSpans name length spans).classifier.Coherent d := by
  obtain ⟨finish, hlength, htiles⟩ := PartitionMap.tiles_ofSpans name length spans
  intro offset p hoffset hp
  change PartitionMap.partitionAt _ d offset = .ok p at hp
  by_cases hd : d.length = length
  · have hne : (PartitionMap.ofSpans name length spans).partitions ≠ [] := by
      intro hnil
      rw [hnil, PartitionMap.tiles_nil] at htiles
      omega
    have hlookup := fun o (ho : o < d.length) =>
      PartitionMap.partitionAt_eq_ok_iff (m := PartitionMap.ofSpans name length spans) hd hne
        (Nat.lt_of_lt_of_eq ho hd) p
    obtain ⟨-, hcovers, hend, hall⟩ :=
      PartitionMap.find?_tiles htiles (Nat.zero_le offset) ((hlookup offset hoffset).mp hp)
    exact ⟨hcovers, hend, fun o ho ho' hlt => (hlookup o hlt).mpr (hall o ho ho')⟩
  · have hstale : d.length ≠ (PartitionMap.ofSpans name length spans).length := hd
    rw [PartitionMap.partitionAt, if_pos hstale] at hp
    cases hp

theorem Standard.coherent {c : Classifier} (h : Standard c) (d : Document) : c.Coherent d := by
  cases h with
  | whole => exact coherent_whole d
  | map name length spans _ => exact coherent_map name length spans d
  | failing _ h =>
    intro offset p _ hp
    obtain ⟨fault, hfault⟩ := h d offset
    rw [hfault] at hp
    cases hp

end Classifier

end PartitionScan
