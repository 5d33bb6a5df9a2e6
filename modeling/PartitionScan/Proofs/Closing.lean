import PartitionScan.Proofs.Escapes
import PartitionScan.Proofs.LineSpans
import PartitionScan.Proofs.Matching

/-!
# Where a construct closes

Before each closing match the escapes are counted backward, while elsewhere escapes are tracked
forward. Both say the same: an odd number of escapes side by side leaves the last of them in force.
So a construct that a single character closes ends behind the first such character that is not
inert.
-/
namespace PartitionScan

open Scan (Least least_some least_none)

theorem lt_size_of_getElem? {text : Array Char} {i : Nat} {c : Char} (h : text[i]? = some c) :
    i < text.size :=
  (Array.getElem?_eq_some_iff.mp h).1

/-- A pattern that matches a single character and nothing else. -/
def Pattern.IsChar (p : Pattern) (c : Char) : Prop :=
  ∀ text, p.Locates text (fun i => text[i]? = some c) (· + 1)

theorem Pattern.isChar_literal {p : Pattern} {c : Char}
    (hp : p.program = (Expr.literal c []).program) : p.IsChar c := by
  intro text
  refine ⟨fun i j => ?_, fun _ => lt_size_of_getElem?⟩
  rw [hp, Expr.accepts_program_iff, Expr.Matches, Expr.cons_prefix_drop]
  simp

namespace BlockRule

/-- An even number of escapes side by side protects nothing. -/
theorem escapesBefore_even_iff (text : Array Char) (escape : Char) (start i : Nat) :
    escapesBefore text escape start i % 2 = 0 ↔ inert text.toList escape start i = false := by
  induction i with
  | zero => simp [escapesBefore, inert]
  | succ i ih =>
    rw [escapesBefore, inert, Array.getElem?_toList]
    by_cases h : start ≤ i ∧ text[i]? = some escape
    · rw [if_pos h, h.2, decide_eq_true h.1]
      cases hinert : inert text.toList escape start i with
      | true =>
        have hodd : escapesBefore text escape start i % 2 ≠ 0 := by simp [ih, hinert]
        simp only [Bool.not_true, Bool.and_false, iff_true]
        omega
      | false =>
        have heven := ih.mpr hinert
        simp
        omega
    · rw [if_neg h]
      by_cases hstart : start ≤ i
      · have hne : text[i]? ≠ some escape := fun hc => h ⟨hstart, hc⟩
        simp [hne]
      · simp [hstart]

/-- If no match begins inside of another, the first match that begins at no inert place closes. -/
theorem findUnescaped_of_apart {p : Pattern} {text : Array Char} {P : Nat → Prop}
    {finish : Nat → Nat} (hp : p.Locates text P finish) (hnext : ∀ k, P k → k < finish k)
    (hapart : ∀ k l, P k → P l → k < l → finish k ≤ l) (escape : Char) (start i : Nat) :
    ∃ r, Least {k | i ≤ k ∧ P k ∧ inert text.toList escape start k = false} r ∧
      findUnescaped p text escape start i = r.map finish := by
  fun_induction findUnescaped p text escape start i with
  | case1 i hi hnone =>
    refine ⟨none, least_none ?_, rfl⟩
    rintro k ⟨hle, hk, -⟩
    exact hp.find_eq_none_iff.mp hnone k hle hk
  | case2 i hi first last hsome heven =>
    obtain ⟨hle, hP, hfirst, rfl⟩ := hp.find_eq_some_iff.mp hsome
    have hlive := (escapesBefore_even_iff text escape start first).mp heven
    exact ⟨some first, least_some ⟨hle, hP, hlive⟩ fun k hk => hfirst k hk.1 hk.2.1, rfl⟩
  | case3 i hi first last hsome hodd ih =>
    -- The inert candidate is passed over, and no other one begins before its end.
    obtain ⟨hle, hP, hfirst, rfl⟩ := hp.find_eq_some_iff.mp hsome
    have hlt := hnext first hP
    rw [escapesBefore_even_iff] at hodd
    rw [Nat.max_eq_left (by omega)] at ih ⊢
    have hset : {k | finish first ≤ k ∧ P k ∧ inert text.toList escape start k = false} =
        {k | i ≤ k ∧ P k ∧ inert text.toList escape start k = false} := by
      ext k
      constructor
      · rintro ⟨hlast, hk⟩
        exact ⟨by omega, hk⟩
      · rintro ⟨hik, hk, hlive⟩
        refine ⟨hapart first k hP hk (Nat.lt_of_le_of_ne (hfirst k hik hk) ?_), hk, hlive⟩
        rintro rfl
        exact hodd hlive
    rwa [hset] at ih
  | case4 i hi =>
    refine ⟨none, least_none ?_, rfl⟩
    rintro k ⟨hle, hk, -⟩
    have := hp.inside k hk
    omega

/-- The first closing character that is not inert closes. -/
theorem findUnescaped_eq {p : Pattern} {c : Char} (hp : p.IsChar c) (text : Array Char)
    (escape : Char) (start i : Nat) :
    ∃ r, Least {k | i ≤ k ∧ text[k]? = some c ∧ inert text.toList escape start k = false} r ∧
      findUnescaped p text escape start i = r.map (· + 1) :=
  findUnescaped_of_apart (hp text) (fun k _ => Nat.lt_succ_self k) (fun _ _ _ _ hlt => hlt) escape
    start i

/-- Looked for from a place on, the end of a construct that a character closes. -/
theorem findEnd_eq {r : BlockRule} {escape c : Char} (hescape : r.escape = some escape)
    (hclosing : r.closing.IsChar c) (text : Array Char) (i : Nat) :
    ∃ close, Least {k | i ≤ k ∧ text[k]? = some c ∧ inert text.toList escape i k = false} close ∧
      r.findEnd text i = close.map (· + 1) := by
  rw [findEnd, hescape]
  exact findUnescaped_eq hclosing text escape i i

end BlockRule

end PartitionScan
