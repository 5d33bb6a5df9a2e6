import PartitionScan.Proofs.Directions
import PartitionScan.Proofs.Scanning
import PartitionScan.Proofs.Tiling

/-!
# Gates are transparent

A gated condition remembers the partition it saw last and jumps over rejected ones. With a coherent
classifier neither shows: a scan finds what looking at every offset by itself would find, however
the condition has been used before.
-/
namespace PartitionScan.Scan

namespace Condition

/-- The test that a condition makes of a character, if that is all it does. -/
def test? : Condition → Option (Char → Bool)
  | .among set => some fun c => set.contains c
  | .nonBlank lineBreakIsBlank => some (isNonBlank lineBreakIsBlank)
  | .nonWord => some fun c => !Text.isAlphanumeric c
  | .satisfying p => some p
  | .unescaped _ _ _ => none
  | .gated _ _ => none

variable {inner : Condition} {test : Char → Bool} (h : inner.test? = some test)
include h

theorem stop_of_test (ctx : Context) (position : Int) (c : Char) :
    inner.stop ctx position c = { stops := test c, condition := inner } := by
  cases inner with
  | among set | nonBlank | nonWord | satisfying => cases h; rfl
  | unescaped | gated => cases h

theorem nextForward_of_test (position : Int) : inner.nextForward position = position + 1 := by
  cases inner with
  | gated => cases h
  | _ => rfl

theorem nextBackward_of_test (position : Int) : inner.nextBackward position = position - 1 := by
  cases inner with
  | gated => cases h
  | _ => rfl

end Condition

/-- Whether an offset is in an accepted partition and its character passes a test. -/
def Context.passes (ctx : Context) (test : Char → Bool) (offset : Nat) : Bool :=
  ctx.accepts offset && ctx.text[offset]?.any test

def Context.Coherent (ctx : Context) : Prop :=
  ctx.classifier.Coherent ctx.document

theorem Context.accepts_partition (ctx : Context) (o : Nat) :
    ctx.filter.accepts (ctx.partition o).kind = ctx.accepts o := by
  rw [partition, accepts, kind?, Classifier.kindAt]
  cases ctx.classifier.partitionAt ctx.document o with
  | ok p => rfl
  | error e => rfl

/-- The partition at an offset begins at or before it, and what is true of the offset is true of the
whole partition: it is accepted or it is not. -/
theorem Context.Coherent.partition_spec {ctx : Context} (h : ctx.Coherent) {o : Nat}
    (ho : o < ctx.document.length) : (ctx.partition o).offset ≤ o ∧
      ∀ p, (ctx.partition o).offset ≤ p → (p ≤ o ∨ p < (ctx.partition o).finish) →
        p < ctx.document.length → ctx.accepts p = ctx.accepts o := by
  cases hc : ctx.classifier.partitionAt ctx.document o with
  | ok q =>
    have hq : ctx.partition o = q := by rw [partition, hc]
    obtain ⟨hstart, hfinish, hall⟩ := h o q ho hc
    rw [hq]
    refine ⟨hstart, fun p hp hp' hlt => ?_⟩
    have hsame : ctx.partition p = ctx.partition o := by
      rw [hq, partition, hall p hp (by omega) hlt]
    rw [← accepts_partition, ← accepts_partition, hsame]
  | error e =>
    have hmissing : ctx.partition o = .missing o := by rw [partition, hc]
    rw [hmissing]
    refine ⟨Nat.le_refl o, fun p hp hp' _ => ?_⟩
    simp only [Partition.missing, Partition.finish] at hp hp'
    rw [show p = o by omega]

/-- What is remembered of an accepted partition is that all of it is accepted. -/
def Seen.Sound (ctx : Context) (s : Seen) : Prop :=
  s.accepted = true →
    ∀ p, s.start ≤ p → p < s.finish → p < ctx.document.length → ctx.accepts p = true

/-- A gate around a condition that remembers nothing false. -/
def Gates (ctx : Context) (inner cond : Condition) : Prop :=
  ∃ seen, cond = .gated inner seen ∧ ∀ s, seen = some s → s.Sound ctx

theorem gates_gate (ctx : Context) (inner : Condition) : Gates ctx inner inner.gate :=
  ⟨none, rfl, fun _ hs => nomatch hs⟩

section

variable {ctx : Context} {inner : Condition} {test : Char → Bool}

/-- What a gate does at an offset: it tests the character if the offset is accepted, and remembers
rightly what it has seen. -/
theorem stop_gate (htest : inner.test? = some test) (hctx : ctx.Coherent) {cond : Condition}
    (h : Gates ctx inner cond) {position : Int} (c : Char)
    (ho : toOffset position < ctx.document.length) :
    (cond.stop ctx position c).stops = (ctx.accepts (toOffset position) && test c) ∧
      ∃ s : Seen, (cond.stop ctx position c).condition = .gated inner (some s) ∧ s.Sound ctx ∧
        (s.accepted = false → s.start ≤ toOffset position ∧
          ∀ p, s.start ≤ p → (p ≤ toOffset position ∨ p < s.finish) → p < ctx.document.length →
            ctx.accepts p = false) := by
  obtain ⟨seen, rfl, hsound⟩ := h
  obtain ⟨hstart, hall⟩ := hctx.partition_spec ho
  rw [Condition.stop, Condition.stop_of_test htest]
  by_cases hcached : seen.any fun s =>
      s.accepted && s.start ≤ toOffset position && toOffset position < s.finish
  · rw [if_pos hcached]
    cases seen with
    | none => cases hcached
    | some s =>
      simp only [Option.any_some, Bool.and_eq_true, decide_eq_true_eq] at hcached
      obtain ⟨⟨haccepted, hle⟩, hlt⟩ := hcached
      have hhere := hsound s rfl haccepted (toOffset position) hle hlt ho
      refine ⟨by rw [hhere, Bool.true_and], s, rfl, hsound s rfl, fun hrejected => ?_⟩
      rw [haccepted] at hrejected
      cases hrejected
  · rw [if_neg hcached]
    simp only [Context.accepts_partition]
    cases hhere : ctx.accepts (toOffset position) with
    | true =>
      refine ⟨by simp, _, rfl, fun _ p hp hp' hlt => ?_, fun hrejected => nomatch hrejected⟩
      exact (hall p hp (.inr hp') hlt).trans hhere
    | false =>
      refine ⟨by simp, _, rfl, fun haccepted => (nomatch haccepted), fun _ => ⟨hstart, ?_⟩⟩
      intro p hp hp' hlt
      exact (hall p hp hp' hlt).trans hhere

/-- A look at a character leaves a gate that remembers nothing false. -/
theorem gates_stop (htest : inner.test? = some test) (hctx : ctx.Coherent) {cond : Condition}
    (h : Gates ctx inner cond) {position : Int} (c : Char)
    (ho : toOffset position < ctx.document.length) :
    Gates ctx inner (cond.stop ctx position c).condition := by
  obtain ⟨-, s, hs, hsound, -⟩ := stop_gate htest hctx h c ho
  exact ⟨some s, hs, fun t ht => Option.some.inj ht ▸ hsound⟩

theorem toPosition_le (n : Nat) : toPosition n ≤ n := by
  rw [toPosition, offsetLimit, Int.bmod_def]
  split <;> omega

theorem passes_eq_false {o : Nat} (h : o < ctx.document.length → ctx.accepts o = false)
    (hctx : ctx.Faithful) : ctx.passes test o = false := by
  by_cases ho : o < ctx.document.length
  · rw [Context.passes, h ho, Bool.false_and]
  · have hnone : ctx.text[o]? = none := by
      rw [List.getElem?_eq_none_iff, ← hctx.length_eq]
      omega
    rw [Context.passes, hnone, Option.any_none, Bool.and_false]

/-- Where a gate looks, it stops exactly at the accepted characters that pass the test. -/
theorem stops_gate (htest : inner.test? = some test) (hctx : ctx.Coherent)
    (hfaithful : ctx.Faithful) {cond : Condition} (h : Gates ctx inner cond) {o : Nat} {c : Char}
    (hc : ctx.text[o]? = some c) : (cond.stop ctx o c).stops = ctx.passes test o := by
  obtain ⟨hoffset, hlt⟩ := hfaithful.offset_of_text hc
  have hstops := (stop_gate htest hctx h c hlt).1
  rw [hstops, hoffset, Context.passes, hc, Option.any_some]

theorem tracks_gate (htest : inner.test? = some test) (hctx : ctx.Coherent)
    (hfaithful : ctx.Faithful) :
    Tracks ctx (ctx.passes test) (fun _ => Gates ctx inner) where
  stops h hc := stops_gate htest hctx hfaithful h hc
  keeps h hc _ _ _ := gates_stop htest hctx h _ (hfaithful.offset_of_text hc).2
  skips {o c cond} h hc m hm hm' := by
    obtain ⟨hoffset, hlt⟩ := hfaithful.offset_of_text hc
    obtain ⟨-, s, hs, -, hrejected⟩ := stop_gate htest hctx h c hlt
    rw [hs, Condition.nextForward] at hm'
    cases haccepted : s.accepted with
    | true =>
      rw [haccepted, if_pos rfl, Condition.nextForward_of_test htest] at hm'
      omega
    | false =>
      obtain ⟨hstart, hall⟩ := hrejected haccepted
      rw [hoffset] at hstart
      have hfinish := toPosition_le s.finish
      rw [haccepted, if_neg (by simp)] at hm'
      split at hm'
      · exact passes_eq_false (hall m (by omega) (.inr (by omega))) hfaithful
      · omega

theorem retraces_gate (htest : inner.test? = some test) (hctx : ctx.Coherent)
    (hfaithful : ctx.Faithful) : Retraces ctx (ctx.passes test) (Gates ctx inner) where
  stops h hc := stops_gate htest hctx hfaithful h hc
  keeps h hc := gates_stop htest hctx h _ (hfaithful.offset_of_text hc).2
  skips {o c cond} h hc m hm hm' := by
    obtain ⟨hoffset, hlt⟩ := hfaithful.offset_of_text hc
    obtain ⟨-, s, hs, -, hrejected⟩ := stop_gate htest hctx h c hlt
    rw [hs, Condition.nextBackward] at hm'
    cases haccepted : s.accepted with
    | true =>
      rw [haccepted, if_pos rfl, Condition.nextBackward_of_test htest] at hm'
      omega
    | false =>
      obtain ⟨hstart, hall⟩ := hrejected haccepted
      rw [hoffset] at hstart hlt
      rw [haccepted, if_neg (by simp), hfaithful.toPosition_eq (by omega)] at hm'
      split at hm'
      · exact passes_eq_false (hall m (by omega) (.inl (by omega))) hfaithful
      · omega

end

inductive Pass where
  | forward (start : Nat) (bound : Bound)
  | backward (start : Nat) (bound : Bound)
  deriving DecidableEq, Repr

/-- A condition and a cursor after one more scan with them; a scan that faults leaves both. -/
def Pass.run (ctx : Context) (used : Condition × Cursor) (pass : Pass) : Condition × Cursor :=
  let answer := match pass with
    | .forward start bound => forwardWith start bound used.1 ctx used.2
    | .backward start bound => backwardWith start bound used.1 ctx used.2
  match answer with
  | .ok ((_, cond), cur) => (cond, cur)
  | .error _ => used

section

variable {ctx : Context} {inner : Condition} {test : Char → Bool}

/-- One scan, wherever it begins and ends, leaves a gate that remembers nothing false. -/
theorem gates_run (htest : inner.test? = some test) (hctx : ctx.Coherent)
    (hfaithful : ctx.Faithful) (used : Condition × Cursor) (h : Gates ctx inner used.1)
    (pass : Pass) : Gates ctx inner (pass.run ctx used).1 := by
  have hstop : ∀ position c cond, Gates ctx inner cond → ctx.charAt position = .ok c →
      Gates ctx inner (cond.stop ctx position c).condition := by
    intro position c cond hgates hc
    exact gates_stop htest hctx hgates c (hfaithful.lt_length_of_charAt hc)
  cases pass with
  | forward start bound =>
    simp only [Pass.run, forwardWith]
    cases ctx.limit bound with
    | error e => exact h
    | ok limit => exact (Direction.run_forward ctx limit _ _).keeps hstop h
  | backward start bound =>
    simp only [Pass.run, backwardWith, backwardFrom]
    split
    · exact h
    · exact (Direction.run_backward ctx _ _ _).keeps hstop h

/-- So do any number of scans. -/
theorem gates_runs (htest : inner.test? = some test) (hctx : ctx.Coherent)
    (hfaithful : ctx.Faithful) (passes : List Pass) (used : Condition × Cursor)
    (h : Gates ctx inner used.1) : Gates ctx inner (passes.foldl (Pass.run ctx) used).1 := by
  induction passes generalizing used with
  | nil => exact h
  | cons pass passes ih => exact ih _ (gates_run htest hctx hfaithful used h pass)

end

def Bound.lower : Bound → Int
  | .unbound => -1
  | .offset n => n

theorem Bound.below_eq_lower {bound : Bound} (h : ∀ n, bound = .offset n → n ≤ lastPosition) :
    bound.below = bound.lower := by
  cases bound with
  | unbound => rfl
  | offset n => exact toPosition_of_le (h n rfl)

theorem Bound.neg_one_le_lower (bound : Bound) : -1 ≤ bound.lower := by
  cases bound with
  | unbound => exact Int.le_refl (-1)
  | offset n =>
    rw [lower]
    omega

/-- With any gate around a test, fresh or used by any scans before, a forward scan answers with the
least offset of its range that is accepted and passes the test, and a backward scan with the
greatest; the cursor is left there, or at the bound if there is none. -/
theorem gated_scans_exact (b : Buffer) (hb : b.length ≤ lastPosition) (classifier : Classifier)
    (hclassifier : classifier.Standard) (filter : Filter) (inner : Condition) (test : Char → Bool)
    (htest : inner.test? = some test) (passes : List Pass) (fresh : Cursor) (start : Nat)
    (bound : Bound) :
    let ctx : Context := ⟨b.document, classifier, filter⟩
    let used := passes.foldl (Pass.run ctx) (inner.gate, fresh)
    let limit := bound.above b.length
    (limit ≤ b.length →
      ∃ r cond cur, forwardWith start bound used.1 ctx used.2 = .ok ((r, cond), cur) ∧
        Least {o | start ≤ o ∧ o < limit ∧ ctx.passes test o = true} r ∧
        cur.position = r.elim (limit : Int) (fun o => (o : Int))) ∧
    (start < b.length → (∀ n, bound = .offset n → n ≤ lastPosition) →
      ∃ r cond cur, backwardWith start bound used.1 ctx used.2 = .ok ((r, cond), cur) ∧
        Greatest {o | bound.lower < o ∧ o ≤ start ∧ ctx.passes test o = true} r ∧
        cur.position = r.elim bound.lower (fun o => (o : Int))) := by
  intro ctx used limit
  have hfaithful : ctx.Faithful := Context.faithful_document hb classifier filter
  have hctx : ctx.Coherent := hclassifier.coherent b.document
  have hgates : Gates ctx inner used.1 :=
    gates_runs htest hctx hfaithful passes _ (gates_gate ctx inner)
  constructor
  · intro hlimit
    have hends := forward_ends (tracks_gate htest hctx hfaithful) hfaithful hlimit
      (used.2.moveTo (min start limit : Nat)) used.1 _ rfl hgates
    obtain ⟨hleast, hposition⟩ := hends.least hfaithful hlimit
    refine ⟨_, _, _, forwardWith_eq hfaithful rfl hlimit used.1 used.2, ?_, hposition⟩
    have hrange : {o | start ≤ o ∧ o < limit ∧ ctx.passes test o = true} =
        {o | min start limit ≤ o ∧ o < limit ∧ ctx.passes test o = true} := by
      ext o
      constructor
      · rintro ⟨ho, hlt, hpasses⟩
        exact ⟨by omega, hlt, hpasses⟩
      · rintro ⟨ho, hlt, hpasses⟩
        exact ⟨by omega, hlt, hpasses⟩
    rw [hrange]
    exact hleast
  · intro hstart hbound
    have hends := backward_ends (retraces_gate htest hctx hfaithful) hfaithful
      bound.neg_one_le_lower (used.2.moveTo start) used.1 (Int.ofNat_lt.mpr hstart) hgates
    obtain ⟨hgreatest, hposition⟩ := hends.greatest hfaithful (Int.ofNat_lt.mpr hstart)
    rw [← Bound.below_eq_lower hbound] at hgreatest hposition ⊢
    refine ⟨_, _, _, backwardWith_eq hfaithful hstart bound used.1 used.2, ?_, hposition⟩
    simpa only [Cursor.position_moveTo, Int.ofNat_le] using hgreatest

/-- The closing parenthesis inside the quotes is passed over by a gate that was used both ways. -/
theorem gated_scans_exact_quoted :
    let b := Buffer.scratch ['(', '"', ')', '"', ')']
    let classifier := (PartitionMap.ofSpans "quotes" 5 [⟨"string", 1, 3⟩]).classifier
    let ctx : Context := ⟨b.document, classifier, .defaultOnly⟩
    let used := [Pass.backward 4 .unbound, .forward 0 (.offset 3)].foldl (Pass.run ctx)
      ((Condition.among [')']).gate, {})
    b.length ≤ lastPosition ∧ ∃ cond cur,
      forwardWith 0 .unbound used.1 ctx used.2 = .ok ((some 4, cond), cur) ∧ cur.position = 4 := by
  intro b classifier ctx used
  have hb : b.length ≤ lastPosition := by decide
  obtain ⟨r, cond, cur, hanswer, hleast, hposition⟩ :=
    (gated_scans_exact b hb classifier (.map _ _ _ (by decide)) .defaultOnly (.among [')']) _ rfl
      [.backward 4 .unbound, .forward 0 (.offset 3)] {} 0 .unbound).1 (by decide)
  have hfirst : ∀ p < 5, ctx.passes (fun c => [')'].contains c) p = true → 4 ≤ p := by decide
  obtain rfl : r = some 4 := hleast.unique
    (least_some ⟨by decide, by decide, by decide⟩ fun p hp => hfirst p hp.2.1 hp.2.2)
  exact ⟨hb, cond, cur, hanswer, hposition⟩

end PartitionScan.Scan
