/-!
# Paths

A path is a text whose parts are divided by slashes. Empty parts and parts that are a single dot
do not count.
-/
namespace PartitionScan.Path

def cut : List Char → List (List Char)
  | [] => [[]]
  | c :: rest =>
    if c == '/' then [] :: cut rest
    else
      match cut rest with
      | [] => [[c]]
      | piece :: more => (c :: piece) :: more

def pieces (path : String) : List String :=
  (cut path.toList).map String.ofList

def parts (path : String) : List String :=
  (pieces path).filter fun part => part != "" && part != "."

/-- Whether a file system takes the path: it has less than 4096 bytes, its parts have at most 255
each, and no character is NUL. -/
def isUsable (path : String) : Bool :=
  path.utf8ByteSize < 4096 && !path.toList.contains '\x00' &&
    (parts path).all fun part => part.utf8ByteSize ≤ 255

/-- The last part of a path, unless it leads up. -/
def fileName? (path : String) : Option String :=
  match (parts path).getLast? with
  | some ".." => none
  | last => last

/-- What follows the last dot of a file name, unless the name starts with that dot. -/
def extensionOf (name : List Char) : Option (List Char) :=
  let tail := name.reverse.takeWhile (· != '.')
  if tail.length + 1 < name.length then some tail.reverse else none

/-- The extension of a file name stands behind its last dot, and something stands before that dot.
-/
theorem extensionOf_eq_some_iff {name extension : List Char} :
    extensionOf name = some extension ↔
      ∃ stem, stem ≠ [] ∧ name = stem ++ '.' :: extension ∧ '.' ∉ extension := by
  rw [extensionOf]
  constructor
  · intro h
    have hcut : name.reverse.takeWhile (· != '.') ++ name.reverse.dropWhile (· != '.') =
        name.reverse :=
      List.takeWhile_append_dropWhile
    have htail : '.' ∉ name.reverse.takeWhile (· != '.') := by
      intro hdot
      simpa using List.all_eq_true.mp List.all_takeWhile '.' hdot
    have hrest := List.head?_dropWhile_not (· != '.') name.reverse
    generalize name.reverse.takeWhile (· != '.') = tail at h hcut htail
    generalize name.reverse.dropWhile (· != '.') = rest at hcut hrest
    have hlength := congrArg List.length hcut
    rw [List.length_append, List.length_reverse] at hlength
    split at h
    next hlt =>
      obtain rfl := Option.some.inj h
      match rest with
      | [] => simp at hlength; omega
      | c :: stem =>
        obtain rfl : c = '.' := by simpa using hrest
        refine ⟨stem.reverse, ?_, ?_, by simpa using htail⟩
        · rintro hnil
          obtain rfl := List.reverse_eq_nil_iff.mp hnil
          simp at hlength
          omega
        · rw [← List.reverse_reverse name, ← hcut]
          simp
    next => cases h
  · rintro ⟨stem, hstem, rfl, hdot⟩
    have htail : (stem ++ '.' :: extension).reverse.takeWhile (· != '.') = extension.reverse := by
      rw [List.reverse_append, List.reverse_cons, List.append_assoc,
        List.takeWhile_append_of_pos (by simpa using fun c hc (h : c = '.') => hdot (h ▸ hc))]
      simp
    have hpos := List.length_pos_iff.mpr hstem
    simp only [htail, List.reverse_reverse]
    rw [if_pos (by simp; omega)]

def extension? (path : String) : Option String :=
  (fileName? path).bind fun name => (extensionOf name.toList).map String.ofList

theorem extension?_eq_some_iff {path extension : String} :
    extension? path = some extension ↔ ∃ name stem, fileName? path = some name ∧ stem ≠ [] ∧
      name.toList = stem ++ '.' :: extension.toList ∧ '.' ∉ extension.toList := by
  have hname (name : String) : (extensionOf name.toList).map String.ofList = some extension ↔
      ∃ stem, stem ≠ [] ∧ name.toList = stem ++ '.' :: extension.toList ∧
        '.' ∉ extension.toList := by
    rw [← extensionOf_eq_some_iff, Option.map_eq_some_iff]
    constructor
    · rintro ⟨chars, hchars, rfl⟩
      rwa [String.toList_ofList]
    · exact fun h => ⟨extension.toList, h, String.ofList_toList⟩
  rw [extension?, Option.bind_eq_some_iff]
  simp only [hname, exists_and_left]

end PartitionScan.Path
