import PartitionScan.Proofs.Gating
import PartitionScan.Scan.Regions

/-!
# Runs around a position

A condition that only tests characters needs neither the classifier nor a memory. A region of such a
condition is looked for by one scan ahead and one scan back, each of which ends either at an offset
where the condition stops or at an end of the text; so what lies between the two ends is a run that
cannot be made longer.
-/
namespace PartitionScan.Scan

def stopsAt (text : List Char) (test : Char → Bool) (o : Nat) : Bool :=
  text[o]?.any test

/-- A region of characters that do not pass a test, with an end of the text or a character that
passes it on either side. -/
structure IsRun (text : List Char) (test : Char → Bool) (r : Region) : Prop where
  nonempty : 0 < r.length
  within : r.finish ≤ text.length
  quiet : ∀ o, r.offset ≤ o → o < r.finish → stopsAt text test o = false
  before : r.offset = 0 ∨ stopsAt text test (r.offset - 1) = true
  behind : r.finish = text.length ∨ stopsAt text test r.finish = true

section

variable {ctx : Context} {inner : Condition} {test : Char → Bool} (htest : inner.test? = some test)
include htest

theorem stops_test {o : Nat} {c : Char} (hc : ctx.text[o]? = some c) :
    (inner.stop ctx o c).stops = stopsAt ctx.text test o := by
  rw [Condition.stop_of_test htest, stopsAt, hc, Option.any_some]

theorem tracks_test : Tracks ctx (stopsAt ctx.text test) (fun _ cond => cond = inner) where
  stops h hc := h ▸ stops_test htest hc
  keeps h _ _ _ _ := by rw [h, Condition.stop_of_test htest]
  skips h _ m hm hm' := by
    rw [h, Condition.stop_of_test htest, Condition.nextForward_of_test htest] at hm'
    omega

theorem retraces_test : Retraces ctx (stopsAt ctx.text test) (fun cond => cond = inner) where
  stops h hc := h ▸ stops_test htest hc
  keeps h _ := by rw [h, Condition.stop_of_test htest]
  skips h _ m hm hm' := by
    rw [h, Condition.stop_of_test htest, Condition.nextBackward_of_test htest] at hm'
    omega

end

section

variable {ctx : Context} {live : Nat → Bool}

/-- Wherever a forward scan ended, nothing is live before, and it ended at its limit or where
something is live. -/
theorem EndsForward.reach {inv : Nat → Condition → Prop} {start limit : Nat} {out : Outcome}
    (h : EndsForward ctx live inv start limit out) (hle : start ≤ limit) :
    ∃ finish : Nat, out.cursor.position = finish ∧ start ≤ finish ∧ finish ≤ limit ∧
      (∀ o, start ≤ o → o < finish → live o = false) ∧ (finish = limit ∨ live finish = true) ∧
      ∃ m, inv m out.condition := by
  cases h with
  | found o _ hposition _ hstart hlimit hlive hfirst hinv =>
    exact ⟨o, hposition, hstart, Nat.le_of_lt hlimit, hfirst, .inr hlive, o + 1, hinv⟩
  | exhausted _ hposition hnone hinv =>
    exact ⟨limit, hposition, hle, Nat.le_refl limit, hnone, .inl rfl, limit, hinv⟩

/-- A backward scan down to the start of the text ended behind an offset where something is live, or
before the text. -/
theorem EndsBackward.reach {inv : Condition → Prop} {finish : Nat} {out : Outcome}
    (h : EndsBackward ctx live inv ((finish : Int) - 1) (-1) out) :
    ∃ first : Nat, out.cursor.position + 1 = first ∧ first ≤ finish ∧
      (∀ o, first ≤ o → o < finish → live o = false) ∧ (first = 0 ∨ live (first - 1) = true) := by
  cases h with
  | found o _ hposition _ hstart _ hlive hlast _ =>
    refine ⟨o + 1, by omega, by omega, fun p hp hp' => hlast p hp (by omega), .inr hlive⟩
  | exhausted _ hposition hnone _ =>
    exact ⟨0, by omega, Nat.zero_le finish, fun p _ hp => hnone p (by omega) (by omega), .inl rfl⟩

/-- The scan back from before a position also ends like this in an empty text, of which it reads
nothing. -/
theorem backwardFrom_reach {inv : Condition → Prop} (h : Retraces ctx live inv)
    (hctx : ctx.Faithful) {finish : Nat} (hfinish : finish ≤ ctx.document.length) (cur : Cursor)
    {cond : Condition} (hinv : inv cond) :
    ∃ first : Nat, (backwardFrom ctx (finish - 1) .unbound cur cond).cursor.position + 1 = first ∧
      first ≤ finish ∧ (∀ o, first ≤ o → o < finish → live o = false) ∧
      (first = 0 ∨ live (first - 1) = true) := by
  rw [backwardFrom]
  by_cases hempty : ctx.document.isEmpty = true
  · rw [if_pos hempty]
    have hzero : finish = 0 := by
      rw [hctx.isEmpty_eq, beq_iff_eq] at hempty
      omega
    exact ⟨0, rfl, Nat.zero_le finish, fun o _ ho => by omega, .inl rfl⟩
  · rw [if_neg hempty]
    have hends := backward_ends h hctx (Int.le_refl (-1)) (cur.moveTo (finish - 1)) cond
      (by rw [Cursor.position_moveTo]; omega) hinv
    exact hends.reach

end

section

variable {ctx : Context} {inner : Condition} {test : Char → Bool}

/-- A region is what lies between the ends of the scan ahead and the scan back. -/
theorem findRegion_eq (htest : inner.test? = some test) (hctx : ctx.Faithful) (position : Nat)
    (allowClosing : Bool) (cur : Cursor) :
    ∃ first finish : Nat,
      first ≤ min position ctx.document.length ∧ min position ctx.document.length ≤ finish ∧
      finish ≤ ctx.document.length ∧
      (∀ o, first ≤ o → o < finish → stopsAt ctx.text test o = false) ∧
      (first = 0 ∨ stopsAt ctx.text test (first - 1) = true) ∧
      (finish = ctx.document.length ∨ stopsAt ctx.text test finish = true) ∧
      ∃ cur', findRegion position inner allowClosing ctx cur =
        .ok (if (allowClosing = true ∨ min position ctx.document.length < finish) ∧ first < finish
          then some ⟨first, finish - first⟩ else none, cur') := by
  obtain ⟨p, hp⟩ : ∃ p, p = min position ctx.document.length := ⟨_, rfl⟩
  have hlength : p ≤ ctx.document.length := hp ▸ Nat.min_le_right position ctx.document.length
  obtain ⟨finish, hahead, hstart, hfinish, hquiet, hbehind, -, hcond⟩ :=
    (forward_ends (tracks_test htest) hctx (Nat.le_refl _) (cur.moveTo p) inner p rfl rfl).reach
      hlength
  obtain ⟨first, hback, hfirst, hquiet', hbefore⟩ :=
    backwardFrom_reach (retraces_test htest) hctx hlength
      (forward ctx ctx.document.length (cur.moveTo p) inner).cursor hcond
  refine ⟨first, finish, hp ▸ hfirst, hp ▸ hstart, hfinish, fun o ho ho' => ?_,
    hbefore, hbehind, ?_⟩
  · by_cases hlt : o < p
    · exact hquiet' o ho hlt
    · exact hquiet o (Nat.le_of_not_lt hlt) ho'
  rw [findRegion, Context.limit_unbound, hctx.toPosition_eq (Nat.le_refl _), ← hp,
    hctx.toPosition_eq hlength]
  simp only [Except.map, hahead, hback, Bool.or_eq_true, decide_eq_true_eq, Int.ofNat_lt]
  by_cases hbegins : allowClosing = true ∨ p < finish
  · rw [if_pos hbegins]
    by_cases hlt : first < finish
    · rw [if_pos hlt, if_pos ⟨hbegins, hlt⟩, hctx.toOffset_natCast (by omega), Int.toNat_sub]
      exact ⟨_, rfl⟩
    · rw [if_neg hlt, if_neg fun h => hlt h.2]
      exact ⟨_, rfl⟩
  · rw [if_neg hbegins, if_neg fun h => hbegins h.1]
    exact ⟨_, rfl⟩

end

/-- A region is found exactly if the condition goes on at the position, or may end there and goes on
before it; it is the run around the position. Runs of blanks and words are regions that may not end
at the position. -/
theorem findRegion_maximal (b : Buffer) (hb : b.length ≤ lastPosition) (classifier : Classifier)
    (filter : Filter) (cond : Condition) (test : Char → Bool) (htest : cond.test? = some test)
    (position : Nat) (allowClosing : Bool) (cur : Cursor) :
    let ctx : Context := ⟨b.document, classifier, filter⟩
    let p := min position b.length
    (∃ found cur', findRegion position cond allowClosing ctx cur = .ok (found, cur') ∧
      (found.isSome = true ↔ (p < b.length ∧ stopsAt b.text test p = false) ∨
        (allowClosing = true ∧ 0 < p ∧ stopsAt b.text test (p - 1) = false)) ∧
      ∀ r ∈ found, IsRun b.text test r ∧ r.offset ≤ p ∧ p ≤ r.finish) ∧
    (∀ lineBreakIsBlank, blankRegion position lineBreakIsBlank =
      findRegion position (.nonBlank lineBreakIsBlank) false) ∧
    commonWord position = findRegion position .nonWord false := by
  intro ctx p
  have hctx : ctx.Faithful := Context.faithful_document hb classifier filter
  refine ⟨?_, fun _ => rfl, rfl⟩
  obtain ⟨first, finish, hfirst, hfinish, hlength, hquiet, hbefore, hbehind, cur', hanswer⟩ :=
    findRegion_eq htest hctx position allowClosing cur
  have htext : ctx.text = b.text := Context.text_document b classifier filter
  rw [htext] at hquiet hbefore hbehind
  change first ≤ p at hfirst
  change p ≤ finish at hfinish
  refine ⟨_, cur', hanswer, ?_, ?_⟩
  · have hahead : p < finish ↔ p < b.length ∧ stopsAt b.text test p = false := by
      constructor
      · exact fun hlt => ⟨Nat.lt_of_lt_of_le hlt hlength, hquiet p hfirst hlt⟩
      · rintro ⟨hlt, hgoes⟩
        rcases hbehind with hend | hstops
        · exact hend ▸ hlt
        · refine Nat.lt_of_le_of_ne hfinish fun heq => ?_
          rw [← heq] at hstops
          exact nomatch hgoes.symm.trans hstops
    have hback : first < p ↔ 0 < p ∧ stopsAt b.text test (p - 1) = false := by
      constructor
      · exact fun hlt => ⟨by omega, hquiet (p - 1) (by omega) (by omega)⟩
      · rintro ⟨hpos, hgoes⟩
        rcases hbefore with hzero | hstops
        · omega
        · refine Nat.lt_of_le_of_ne hfirst fun heq => ?_
          rw [heq] at hstops
          exact nomatch hgoes.symm.trans hstops
    rw [Option.isSome_ite, ← hahead, ← hback]
    constructor
    · rintro ⟨hcloses | hlt, hne⟩
      · by_cases hlt : p < finish
        · exact .inl hlt
        · exact .inr ⟨hcloses, by omega⟩
      · exact .inl hlt
    · rintro (hlt | ⟨hcloses, hlt⟩)
      · exact ⟨.inr hlt, Nat.lt_of_le_of_lt hfirst hlt⟩
      · exact ⟨.inl hcloses, Nat.lt_of_lt_of_le hlt hfinish⟩
  · intro r hr
    rw [Option.mem_def, Option.ite_none_right_eq_some, Option.some.injEq] at hr
    obtain ⟨⟨-, hlt⟩, rfl⟩ := hr
    have hend : Region.finish ⟨first, finish - first⟩ = finish :=
      Nat.add_sub_of_le (Nat.le_of_lt hlt)
    refine ⟨⟨Nat.sub_pos_of_lt hlt, ?_, ?_, hbefore, ?_⟩, hfirst, hend.symm ▸ hfinish⟩
    · rw [hend, Buffer.length_text]
      exact hlength
    · rw [hend]
      exact hquiet
    · rw [hend, Buffer.length_text]
      exact hbehind

/-- Behind the blanks a region of blanks is only found if it may end there. -/
theorem findRegion_maximal_behind_blanks :
    let b := Buffer.scratch ['a', 'b', ' ', ' ', ' ', 'c', 'd']
    let ctx : Context := ⟨b.document, .failing, .defaultOnly⟩
    b.length ≤ lastPosition ∧ (Condition.nonBlank false).test? = some (Condition.isNonBlank false) ∧
      (∃ cur, findRegion 5 (.nonBlank false) false ctx {} = .ok (none, cur)) ∧
      ∃ cur, findRegion 5 (.nonBlank false) true ctx {} = .ok (some ⟨2, 3⟩, cur) := by
  intro b ctx
  have hb : b.length ≤ lastPosition := by decide
  have hfind := findRegion_maximal b hb .failing .defaultOnly (.nonBlank false) _ rfl 5
  refine ⟨hb, rfl, ?_, ?_⟩
  · obtain ⟨⟨found, cur, hanswer, hsome, -⟩, -⟩ := hfind false {}
    have hnone : ¬ found.isSome = true := by
      rw [hsome]
      decide
    rw [Option.not_isSome_iff_eq_none.mp hnone] at hanswer
    exact ⟨cur, hanswer⟩
  · obtain ⟨⟨found, cur, hanswer, hsome, hrun⟩, -⟩ := hfind true {}
    obtain ⟨⟨first, length⟩, rfl⟩ := Option.isSome_iff_exists.mp (hsome.mpr (by decide))
    obtain ⟨hr, hle, hge⟩ := hrun _ rfl
    have hpos : 0 < length := hr.nonempty
    have hfinish : first + length = 5 := by
      refine Nat.le_antisymm (Nat.le_of_not_lt fun hlt => ?_) hge
      exact nomatch (hr.quiet 5 hle hlt).symm.trans (by decide : stopsAt b.text _ 5 = true)
    have hfirst : first = 2 := by
      have honly : ∀ first < 5, stopsAt b.text (Condition.isNonBlank false) first = false →
          first = 0 ∨ stopsAt b.text (Condition.isNonBlank false) (first - 1) = true →
              first = 2 := by
        decide
      exact honly first (by omega)
        (hr.quiet first (Nat.le_refl first) (by simp only [Region.finish]; omega))
        hr.before
    obtain rfl : length = 3 := by omega
    exact ⟨cur, hfirst ▸ hanswer⟩

end PartitionScan.Scan
