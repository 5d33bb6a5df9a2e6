import PartitionScan.Language.ByteLoop
import PartitionScan.Proofs.StableSorts

/-!
# The order of line rules

A language sorts its line rules by priority again with every rule that is added to it. The sort is
stable, so that in the end the rules stand as if all of them had been sorted once. Nothing is left
of the order in which they came but that of rules of one priority, and the spans of a line depend on
no more.
-/
namespace PartitionScan

namespace Language

section

variable {rule r : LineRule} {rules sorted : List LineRule}

theorem mem_insertRule : r ∈ insertRule rule rules ↔ r = rule ∨ r ∈ rules := by
  induction rules with
  | nil => simp [insertRule]
  | cons s rest ih =>
    rw [insertRule]
    split
    · rw [List.mem_cons, List.mem_cons, ih, or_left_comm]
    · rw [List.mem_cons]

theorem descending_insertRule (h : sorted.Pairwise fun r s => s.priority ≤ r.priority) :
    (insertRule rule sorted).Pairwise fun r s => s.priority ≤ r.priority := by
  induction sorted with
  | nil => simp [insertRule]
  | cons s rest ih =>
    rw [List.pairwise_cons] at h
    rw [insertRule]
    split
    next hle =>
      refine List.pairwise_cons.mpr ⟨fun r hr => ?_, ih h.2⟩
      rcases mem_insertRule.mp hr with rfl | hr
      · exact hle
      · exact h.1 r hr
    next hlt =>
      refine List.pairwise_cons.mpr ⟨fun r hr => ?_, List.pairwise_cons.mpr h⟩
      rcases List.mem_cons.mp hr with rfl | hr
      · omega
      · have := h.1 r hr
        omega

/-- A rule is inserted behind all rules of its priority. -/
theorem filter_insertRule (h : sorted.Pairwise fun r s => s.priority ≤ r.priority) (k : Int) :
    (insertRule rule sorted).filter (·.priority = k) =
      (sorted ++ [rule]).filter (·.priority = k) := by
  induction sorted with
  | nil => rfl
  | cons s rest ih =>
    rw [List.pairwise_cons] at h
    rw [insertRule]
    split
    next hle => rw [List.filter_cons, ih h.2, List.cons_append, List.filter_cons]
    next hlt =>
      by_cases hk : rule.priority = k
      · have hnone : (s :: rest).filter (·.priority = k) = [] := by
          rw [List.filter_eq_nil_iff]
          intro r hr
          have hle : r.priority ≤ s.priority := by
            rcases List.mem_cons.mp hr with rfl | hr
            · exact Int.le_refl _
            · exact h.1 r hr
          simp only [decide_eq_true_eq]
          omega
        rw [List.filter_cons_of_pos (by simpa using hk), List.filter_append, hnone]
        simp [hk]
      · rw [List.filter_cons_of_neg (by simpa using hk), List.filter_append]
        simp [hk]

/-- One more rule goes to its place among sorted ones. -/
theorem sortedStably_insertRule (h : SortedStably (·.priority) rules sorted) (rule : LineRule) :
    SortedStably (·.priority) (rules ++ [rule]) (insertRule rule sorted) := by
  refine ⟨descending_insertRule h.descending, fun k => ?_⟩
  rw [filter_insertRule h.descending, List.filter_append, List.filter_append, h.stable k]

theorem sortedStably_byPriority (rules : List LineRule) :
    SortedStably (·.priority) rules (byPriority rules) := by
  have hfront : ∀ rules front sorted : List LineRule, SortedStably (·.priority) front sorted →
      SortedStably (·.priority) (front ++ rules)
        (rules.foldl (fun sorted rule => insertRule rule sorted) sorted) := by
    intro rules
    induction rules with
    | nil => simp
    | cons rule rest ih =>
      intro front sorted h
      simpa using ih _ _ (sortedStably_insertRule h rule)
  exact hfront rules [] [] ⟨.nil, fun _ => rfl⟩

end

/-- Sorting what is partly sorted already is sorting all rules. -/
theorem byPriority_byPriority_append (rules added : List LineRule) :
    byPriority (byPriority rules ++ added) = byPriority (rules ++ added) := by
  refine (sortedStably_byPriority _).unique ((sortedStably_byPriority _).congr fun k => ?_)
  rw [List.filter_append, List.filter_append, (sortedStably_byPriority rules).stable k]

/-- However often they are sorted, the line rules end up as after one sort, as the first addition
sorts rules that stood in any order before. -/
theorem addLines_eq (lang : Language) {added : List LineRule} (h : lang.lines = [] ∨ added ≠ []) :
    added.foldl addLine lang = { lang with lines := byPriority (lang.lines ++ added) } := by
  induction added generalizing lang with
  | nil =>
    obtain ⟨name, extensions, blocks, lines⟩ := lang
    obtain rfl : lines = [] := h.resolve_right (by simp)
    rfl
  | cons rule rest ih =>
    rw [List.foldl_cons]
    by_cases hrest : rest = []
    · rw [hrest]
      rfl
    · rw [ih (lang.addLine rule) (.inr hrest)]
      simp [addLine, byPriority_byPriority_append]

/-- The spans of a line depend on nothing but the rules. -/
theorem lineSpans_congr {lang lang' : Language} (hblocks : lang'.blocks = lang.blocks)
    (hlines : lang'.lines = lang.lines) (e : Engine) (text : List Char) (state : Nat) :
    e.lineSpans lang' text state = e.lineSpans lang text state := by
  have hturn : e.lineTurn lang' text = e.lineTurn lang text := by
    funext s
    simp only [Engine.lineTurn, Engine.openings, enclosing?, block?, hblocks, hlines]
  rw [Engine.lineSpans, Engine.lineSpans, hturn]

/-- Line rules that are added to a language that has none, or some in any order, end up in the one
stable order by priority, in which a sort of all of them would put them. Added in another order that
is the same for the rules of each priority, they give every line the same spans and hand on the same
state. -/
theorem lines_forget_insertion_order (lang : Language) (rules : List LineRule)
    (hlines : lang.lines = [] ∨ rules ≠ []) :
    let built := rules.foldl addLine lang
    SortedStably (·.priority) (lang.lines ++ rules) built.lines ∧
    (∀ lines, SortedStably (·.priority) (lang.lines ++ rules) lines → lines = built.lines) ∧
    built.lines = (lang.lines ++ rules).mergeSort (fun r s => decide (s.priority ≤ r.priority)) ∧
    ∀ (lang' : Language) (rules' : List LineRule), lang'.blocks = lang.blocks →
      lang'.lines = lang.lines →
      (∀ p, rules'.filter (·.priority = p) = rules.filter (·.priority = p)) →
      ∀ (e : Engine) (text : List Char) (state : Nat),
        e.lineSpans (rules'.foldl addLine lang') text state = e.lineSpans built text state := by
  intro built
  have hbuilt : built = { lang with lines := byPriority (lang.lines ++ rules) } :=
    addLines_eq lang hlines
  have hsorted : SortedStably (·.priority) (lang.lines ++ rules) built.lines := by
    rw [hbuilt]
    exact sortedStably_byPriority _
  refine ⟨hsorted, fun lines h => h.unique hsorted,
    hsorted.unique (.mergeSort LineRule.priority _), ?_⟩
  intro lang' rules' hblocks hstart horder e text state
  have hlines' : lang'.lines = [] ∨ rules' ≠ [] := by
    refine hlines.imp (hstart.trans ·) fun hne => ?_
    obtain ⟨r, hr⟩ := List.exists_mem_of_ne_nil rules hne
    exact List.ne_nil_of_mem ((mem_iff_of_filter_eq horder r).mpr hr)
  have hsorted' : SortedStably (·.priority) (lang.lines ++ rules)
      (rules'.foldl addLine lang').lines := by
    rw [addLines_eq lang' hlines']
    refine (sortedStably_byPriority _).congr fun p => ?_
    rw [hstart, List.filter_append, List.filter_append, horder p]
  refine lineSpans_congr ?_ (hsorted'.unique hsorted) e text state
  rw [addLines_eq lang' hlines', hbuilt]
  exact hblocks

/-- All three rules match at the same places. The tie between the last two is left as it is. -/
theorem lines_forget_insertion_order_tie :
    let pattern : Pattern := { source := "#", program := (Pattern.Expr.literal '#' []).program }
    let rule (name : String) (priority : Int) : LineRule :=
      { name, pattern, kind := name, priority }
    let bare : Language := { name := "Sh" }
    let early := [rule "comment" 100, rule "shebang" 110, rule "note" 100].foldl addLine bare
    let late := [rule "shebang" 110, rule "comment" 100, rule "note" 100].foldl addLine bare
    bare.lines = [] ∧ early.lines = [rule "shebang" 110, rule "comment" 100, rule "note" 100] ∧
      ∀ (e : Engine) (text : List Char) (state : Nat),
        e.lineSpans late text state = e.lineSpans early text state := by
  intro pattern rule bare early late
  obtain ⟨-, hunique, -, hspans⟩ :=
    lines_forget_insertion_order bare
      [rule "comment" 100, rule "shebang" 110, rule "note" 100] (.inl rfl)
  have horder (p : Int) : [rule "shebang" 110, rule "comment" 100, rule "note" 100].filter
      (·.priority = p) =
      [rule "comment" 100, rule "shebang" 110, rule "note" 100].filter (·.priority = p) := by
    by_cases hp : (110 : Int) = p
    · subst hp
      rfl
    · simp [rule, List.filter_cons, hp]
  refine ⟨rfl, (hunique _ ⟨?_, horder⟩).symm, hspans bare _ rfl rfl horder⟩
  simp [rule]

end Language

end PartitionScan
