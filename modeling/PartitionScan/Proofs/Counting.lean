import PartitionScan.Proofs.Escapes

/-!
# Counting

A character is counted by scans that follow each other through one gate, each from behind the last
stop. Together they stop at every accepted offset of the range at which the character stands, and at
each once.
-/
namespace PartitionScan.Scan

/-- The live offsets of a range are as many as the offsets up to its end that are live and not
before its start. -/
theorem length_liveBetween (live : Nat → Bool) (low high : Nat) :
    (liveBetween live low high).length =
      (List.range high).countP fun o => decide (low ≤ o) && live o := by
  induction high with
  | zero => simp [liveBetween]
  | succ high ih =>
    rw [List.range_succ, List.countP_append, ← ih]
    by_cases hle : low ≤ high
    · rw [liveBetween_append hle (Nat.le_succ high), List.length_append]
      congr 1
      cases hlive : live high <;> simp [liveBetween, hle, hlive]
    · have hempty : high + 1 - low = 0 := by omega
      have hempty' : high - low = 0 := by omega
      simp [liveBetween, hle, hempty, hempty']

/-- A count is the number of offsets from the start on and below both the end and the length at
which the character stands in an accepted partition. -/
theorem count_exact (b : Buffer) (hb : b.length ≤ lastPosition) (classifier : Classifier)
    (hclassifier : classifier.Standard) (filter : Filter) (start finish : Nat) (char : Char)
    (cur : Cursor) :
    let ctx : Context := ⟨b.document, classifier, filter⟩
    ∃ cur', count start finish char ctx cur =
      .ok ((List.range (min finish b.length)).countP fun o =>
        decide (start ≤ o) && (b.text[o]? == some char && ctx.accepts o), cur') := by
  intro ctx
  have hfaithful : ctx.Faithful := Context.faithful_document hb classifier filter
  have hctx : ctx.Coherent := hclassifier.coherent b.document
  have hlive : ctx.passes (fun c => [char].contains c) =
      fun o => b.text[o]? == some char && ctx.accepts o := by
    funext o
    rw [Context.passes, Context.text_document, Bool.and_comm]
    congr 1
    cases b.text[o]? with
    | none => rfl
    | some c => simp [Bool.beq_eq_decide_eq]
  obtain ⟨stops, hstops, hoffsets, -⟩ :=
    stopsIn_live (tracks_gate rfl hctx hfaithful) hfaithful start
      (Nat.min_le_right finish b.length) cur (gates_gate ctx (.among [char]))
  refine ⟨stops.cursor, ?_⟩
  rw [← length_liveBetween, ← hlive, ← hoffsets, count]
  change (stopsIn ctx start (min finish b.length) cur _).map _ = _
  rw [hstops, Except.map]

/-- Of the parentheses, the one in the quotes and the one behind the end are not counted. -/
theorem count_exact_quoted :
    let b := Buffer.scratch ['(', '"', '(', '"', '(', '(']
    let classifier := (PartitionMap.ofSpans "quotes" 6 [⟨"string", 1, 3⟩]).classifier
    let ctx : Context := ⟨b.document, classifier, .defaultOnly⟩
    b.length ≤ lastPosition ∧ classifier.Standard ∧ ∃ cur, count 0 5 '(' ctx {} = .ok (2, cur) := by
  intro b classifier ctx
  have hb : b.length ≤ lastPosition := by decide
  have hclassifier : classifier.Standard := .map _ _ _ (by decide)
  obtain ⟨cur, hcount⟩ := count_exact b hb classifier hclassifier .defaultOnly 0 5 '(' {}
  exact ⟨hb, hclassifier, cur, hcount⟩

end PartitionScan.Scan
