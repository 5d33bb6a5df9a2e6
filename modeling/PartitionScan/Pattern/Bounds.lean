import PartitionScan.Pattern

/-!
# Bounds of matches

A match never ends before it starts nor past the end of the text, and a search never looks to the
left of where it begins.
-/
namespace PartitionScan.Pattern

def Between (text : Array Char) (start i : Nat) : Prop :=
  start ≤ i ∧ i ≤ text.size

/-- Nodes lead forward and stay inside the text. -/
theorem between_of_mem_successors {text : Array Char} {start i : Nat} (h : Between text start i)
    (node : Node) : ∀ s ∈ node.successors text i, Between text start s.2 := by
  intro s hs
  cases node with
  | one set next =>
    simp only [Node.successors] at hs
    split at hs
    · rename_i hc
      have : i < text.size := by
        rcases Nat.lt_or_ge i text.size with hi | hi
        · exact hi
        · simp [Array.getElem?_eq_none hi] at hc
      simp only [List.mem_singleton] at hs
      subst hs
      exact ⟨by have := h.1; simp only; omega, this⟩
    · simp at hs
  | check a next =>
    simp only [Node.successors] at hs
    split at hs <;> simp_all
  | fork first second =>
    simp only [Node.successors, List.mem_cons, List.not_mem_nil, or_false] at hs
    rcases hs with rfl | rfl <;> exact h
  | skip next =>
    simp only [Node.successors, List.mem_singleton] at hs
    subst hs
    exact h
  | accept => simp [Node.successors] at hs

/-- An exploration from places inside the text finds an end inside the text. -/
theorem explore_between {program : Array Node} {text : Array Char} {start finish : Nat} :
    ∀ fuel waiting seen, (∀ s ∈ waiting, Between text start s.2) →
      (explore program text fuel waiting seen).1 = some finish → Between text start finish := by
  intro fuel
  induction fuel with
  | zero => intro waiting seen _ h; simp [explore] at h
  | succ fuel ih =>
    intro waiting seen hw h
    match waiting with
    | [] => simp [explore] at h
    | (q, i) :: waiting =>
      have hi : Between text start i := hw (q, i) (.head _)
      have hrest : ∀ s ∈ waiting, Between text start s.2 := fun s hs => hw s (.tail _ hs)
      rw [explore] at h
      split at h
      · exact ih _ _ hrest h
      · simp only [Option.some.injEq] at h
        exact h ▸ hi
      · rename_i node _ _
        split at h
        · exact ih _ _ hrest h
        · refine ih _ _ ?_ h
          intro s hs
          rcases List.mem_append.1 hs with hs | hs
          · exact between_of_mem_successors hi node s hs
          · exact hrest s hs

/-- An exploration from one place finds an end between it and the end of the text. -/
theorem explore_from_between {program : Array Node} {text : Array Char} {i finish fuel : Nat}
    {seen : Std.TreeSet Nat} (hi : i ≤ text.size)
    (h : (explore program text fuel [(0, i)] seen).1 = some finish) : Between text i finish :=
  explore_between fuel [(0, i)] seen (by simpa [Between] using hi) h

theorem searchFrom_bounds {program : Array Node} {text : Array Char} {start finish : Nat} :
    ∀ count i seen, i + count ≤ text.size →
      searchFrom program text count i seen = some (start, finish) →
      i ≤ start ∧ Between text start finish := by
  intro count
  induction count with
  | zero =>
    intro i seen hi h
    rw [searchFrom] at h
    split at h
    · rename_i hf
      simp only [Option.some.injEq, Prod.mk.injEq] at h
      obtain ⟨rfl, rfl⟩ := h
      exact ⟨Nat.le_refl _, explore_from_between (by omega) (congrArg Prod.fst hf)⟩
    · simp at h
  | succ count ih =>
    intro i seen hi h
    rw [searchFrom] at h
    split at h
    · rename_i hf
      simp only [Option.some.injEq, Prod.mk.injEq] at h
      obtain ⟨rfl, rfl⟩ := h
      exact ⟨Nat.le_refl _, explore_from_between (by omega) (congrArg Prod.fst hf)⟩
    · have := ih (i + 1) _ (by omega) h
      exact ⟨by omega, this.2⟩

/-- A match lies between where the search begins and the end of the text. -/
theorem find_bounds {p : Pattern} {text : Array Char} {i start finish : Nat}
    (h : p.find text i = some (start, finish)) :
    i ≤ start ∧ start ≤ finish ∧ finish ≤ text.size := by
  rw [find, search] at h
  split at h
  · exact searchFrom_bounds _ _ _ (by omega) h
  · simp at h

end PartitionScan.Pattern
