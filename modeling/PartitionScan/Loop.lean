/-!
# Loops

A loop runs turns. Each of them goes on with another state, ends the loop with a result, or fails.
-/
namespace PartitionScan

/-- Runs turns up to one that ends with a result. There is none if a turn fails or if `n` turns do
not suffice. -/
def loop {σ α : Type} (turn : σ → Option (σ ⊕ α)) : Nat → σ → Option α
  | 0, _ => none
  | n + 1, s => do
    match ← turn s with
    | .inl s' => loop turn n s'
    | .inr a => return a

section

variable {σ α : Type} {turn : σ → Option (σ ⊕ α)} {s : σ}

theorem loop_inl {s' : σ} (h : turn s = some (.inl s')) {n : Nat} (hn : 0 < n) :
    loop turn n s = loop turn (n - 1) s' := by
  cases n with
  | zero => exact absurd hn (Nat.lt_irrefl 0)
  | succ n =>
    rw [loop, h]
    rfl

theorem loop_inr {a : α} (h : turn s = some (.inr a)) {n : Nat} (hn : 0 < n) :
    loop turn n s = some a := by
  cases n with
  | zero => exact absurd hn (Nat.lt_irrefl 0)
  | succ n =>
    rw [loop, h]
    rfl

/-- If every turn either brings a measure down and keeps an invariant or ends as it should, so does
the loop. -/
theorem loop_spec {inv : σ → Prop} (left : σ → Nat) {post : α → Prop}
    (hturn : ∀ s, inv s → ∃ next, turn s = some next ∧
      next.elim (fun s' => inv s' ∧ left s' < left s) post)
    {n : Nat} (hs : inv s) (hn : left s < n) :
    ∃ a, loop turn n s = some a ∧ post a := by
  induction n generalizing s with
  | zero => exact absurd hn (Nat.not_lt_zero _)
  | succ n ih =>
    obtain ⟨next, hnext, hpost⟩ := hturn s hs
    cases next with
    | inl s' =>
      rw [loop_inl hnext n.succ_pos]
      exact ih hpost.1 (Nat.lt_of_lt_of_le hpost.2 (Nat.le_of_lt_succ hn))
    | inr a => exact ⟨a, loop_inr hnext n.succ_pos, hpost⟩

/-- What every turn keeps and a last turn turns into a fact about the result holds of the result. -/
theorem loop_keeps {inv : σ → Prop} {post : α → Prop}
    (hturn : ∀ s, inv s → ∀ next, turn s = some next → next.elim inv post) {n : Nat} (hs : inv s)
    {a : α} (h : loop turn n s = some a) : post a := by
  induction n generalizing s with
  | zero => cases h
  | succ n ih =>
    cases hnext : turn s with
    | none =>
      rw [loop, hnext] at h
      cases h
    | some next =>
      have hpost := hturn s hs next hnext
      cases next with
      | inl s' =>
        rw [loop_inl hnext n.succ_pos] at h
        exact ih hpost h
      | inr r =>
        rw [loop_inr hnext n.succ_pos] at h
        exact Option.some.inj h ▸ hpost

/-- A loop whose turns all bring a measure down ends. -/
theorem loop_ends (left : σ → Nat)
    (hturn : ∀ s, ∃ next, turn s = some next ∧ next.elim (fun s' => left s' < left s) fun _ => True)
    {n : Nat} (hn : left s < n) : ∃ a, loop turn n s = some a := by
  have hspec : ∀ s, True → ∃ next, turn s = some next ∧
      next.elim (fun s' => True ∧ left s' < left s) fun _ => True := by
    intro s _
    obtain ⟨next, hnext, hlt⟩ := hturn s
    refine ⟨next, hnext, ?_⟩
    cases next with
    | inl s' => exact ⟨trivial, hlt⟩
    | inr a => trivial
  obtain ⟨a, ha, -⟩ := loop_spec left hspec trivial hn
  exact ⟨a, ha⟩

/-- If every turn keeps the value of a function, which a last turn gives, a loop that ends gives it.
-/
theorem loop_eq {f : σ → α} (hturn : ∀ s, (turn s).map (Sum.elim f id) = some (f s)) {n : Nat}
    (h : ∃ a, loop turn n s = some a) : loop turn n s = some (f s) := by
  induction n generalizing s with
  | zero =>
    obtain ⟨a, ha⟩ := h
    cases ha
  | succ n ih =>
    obtain ⟨next, hnext, hvalue⟩ := Option.map_eq_some_iff.mp (hturn s)
    rw [← hvalue]
    cases next with
    | inl s' =>
      rw [loop_inl hnext n.succ_pos] at h ⊢
      exact ih h
    | inr a => exact loop_inr hnext n.succ_pos

end

end PartitionScan
