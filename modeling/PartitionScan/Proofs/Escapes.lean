import PartitionScan.Proofs.Edits
import PartitionScan.Proofs.Peers

/-!
# Escapes are tracked from line to line

Escapes can only be told reading forward. Going back, each line is read forward by itself with one
condition for all of them, and still the stops are those of one pass over the whole text: no line
break is an escape, so that no line begins inert, and what the condition remembers of the lines
below is true of the text, so that it is never taken for an escape of another place.
-/
namespace PartitionScan

/-- Whether an escape protects an offset, where escapes are tracked from `origin` on. -/
def inert (text : List Char) (escape : Char) (origin : Nat) : Nat → Bool
  | 0 => false
  | o + 1 => decide (origin ≤ o) && text[o]? == some escape && !inert text escape origin o

namespace Buffer

/-- No line begins inert, for no line break is an escape. -/
theorem inert_lineStart {b : Buffer} (hb : b.Canonical) {escape : Char}
    (hescape : Line.IsPlain escape) {line : Nat} (hline : line < b.lines.length) :
    inert b.text escape 0 (extent (b.lines.take line)) = false := by
  have hcut : Line.splitAll b.text = b.lines.take line ++ b.lines.drop line := by
    rw [List.take_append_drop]
    exact hb.symm
  have hback : b.lines.drop line ≠ [] := by
    rw [Ne, List.drop_eq_nil_iff]
    omega
  obtain ⟨hbreak, -, -⟩ := Line.splitAll_eq_append hcut hback
  have htext : b.text = joined (b.lines.take line) ++ joined (b.lines.drop line) := by
    rw [← joined_append, List.take_append_drop]
    rfl
  cases hextent : extent (b.lines.take line) with
  | zero => rfl
  | succ o =>
    have hlength : (joined (b.lines.take line)).length = o + 1 := by
      rw [length_joined, hextent]
    have hlast : b.text[o]? = (joined (b.lines.take line)).getLast? := by
      rw [htext, List.getElem?_append_left (by omega), List.getLast?_eq_getElem?, hlength]
      rfl
    have hne : b.text[o]? ≠ some escape := by
      rw [hlast]
      intro hsome
      rcases hbreak escape hsome with hlf | ⟨hcr, -⟩
      · exact hescape.1 hlf
      · exact hescape.2 hcr
    rw [inert, beq_eq_false_iff_ne.mpr hne, Bool.and_false, Bool.false_and]

/-- Whether an offset lies on the last of the first `lines` lines, or at its end. -/
def EndsWithin (b : Buffer) (lines finish : Nat) : Prop :=
  extent (b.lines.take (lines - 1)) ≤ finish ∧ finish ≤ extent (b.lines.take lines)

theorem EndsWithin.le_length {b : Buffer} {lines finish : Nat} (h : b.EndsWithin lines finish) :
    finish ≤ b.length :=
  Nat.le_trans h.2 (extent_take_le_length b lines)

theorem endsWithin_lineStart (b : Buffer) (line : Nat) :
    b.EndsWithin line (extent (b.lines.take line)) :=
  ⟨extent_take_le (Nat.sub_le line 1), Nat.le_refl _⟩

theorem endsWithin_lineIndex {b : Buffer} (hb : b.lines ≠ []) {offset : Nat}
    (ho : offset ≤ b.length) : b.EndsWithin (lineIndex b.lines offset + 1) offset := by
  obtain ⟨-, hstart, hnext⟩ := lineIndex_bounds b.lines offset hb
  refine ⟨hstart, ?_⟩
  by_cases hlast : lineIndex b.lines offset + 1 < b.lines.length
  · exact Nat.le_of_lt (hnext hlast)
  · rwa [List.take_of_length_le (by omega), ← length_eq_extent]

end Buffer

namespace Scan

/-- Whether an offset holds an accepted member of a set that is neither an escape nor inert. -/
def Context.unescaped (ctx : Context) (set : List Char) (escape : Char) (origin o : Nat) : Bool :=
  ctx.passes (fun c => set.contains c) o && ctx.text[o]? != some escape &&
    !inert ctx.text escape origin o

/-- What a condition remembers of escapes is true: the last one protects the offset behind it. -/
def Recalls (ctx : Context) (set : List Char) (escape : Char) (origin : Nat) (cond : Condition) :
    Prop :=
  ∃ last, cond = .unescaped set escape last ∧
    ∀ e, last = some e → ∃ o : Nat, e = o ∧ inert ctx.text escape origin (o + 1) = true

/-- A condition about to look at an offset that also remembers the escape just before it. -/
def RecallsAt (ctx : Context) (set : List Char) (escape : Char) (origin o : Nat)
    (cond : Condition) : Prop :=
  Recalls ctx set escape origin cond ∧ origin ≤ o ∧
    (inert ctx.text escape origin o = true →
      cond = .unescaped set escape (some ((o : Int) - 1)))

section

variable {ctx : Context} {b : Buffer} {set : List Char} {escape : Char} {origin : Nat}

theorem recalls_escaping (ctx : Context) (set : List Char) (escape : Char) (origin : Nat) :
    Recalls ctx set escape origin (.escaping set escape) :=
  ⟨none, rfl, fun _ h => nomatch h⟩

/-- At an offset that is not inert nothing needs to be remembered. -/
theorem Recalls.at {cond : Condition} (h : Recalls ctx set escape origin cond) {o : Nat}
    (ho : origin ≤ o) (hinert : inert ctx.text escape origin o = false) :
    RecallsAt ctx set escape origin o cond :=
  ⟨h, ho, fun h => nomatch hinert.symm.trans h⟩

theorem inert_origin (text : List Char) (escape : Char) (origin : Nat) :
    inert text escape origin origin = false := by
  cases origin with
  | zero => rfl
  | succ n =>
    rw [inert, decide_eq_false (Nat.not_succ_le_self n)]
    rfl

/-- One look at a character: the condition stops where the text says so, and remembers enough for
the next offset. -/
theorem stop_unescaped (hctx : ctx.Faithful) {o : Nat} {c : Char} {cond : Condition}
    (h : RecallsAt ctx set escape origin o cond) (hc : ctx.text[o]? = some c) :
    (cond.stop ctx o c).stops = ctx.unescaped set escape origin o ∧
      RecallsAt ctx set escape origin (o + 1) (cond.stop ctx o c).condition ∧
      (cond.stop ctx o c).condition.nextForward o = o + 1 := by
  obtain ⟨⟨last, rfl, htrue⟩, horigin, hlast⟩ := h
  have hrecalls : Recalls ctx set escape origin (.unescaped set escape last) := ⟨last, rfl, htrue⟩
  have hnext : origin ≤ o + 1 := Nat.le_succ_of_le horigin
  rw [Context.unescaped, Context.passes, hc, Option.any_some, Condition.stop]
  cases hinert : inert ctx.text escape origin o with
  | true =>
    have hbefore : last = some ((o : Int) - 1) := by
      cases hlast hinert
      rfl
    rw [if_pos hbefore]
    refine ⟨by simp, hrecalls.at hnext ?_, rfl⟩
    rw [inert, hinert, Bool.not_true, Bool.and_false]
  | false =>
    have hbefore : last ≠ some ((o : Int) - 1) := by
      intro hsome
      obtain ⟨p, hp, hprotects⟩ := htrue _ hsome
      have ho : o = p + 1 := by omega
      rw [← ho, hinert] at hprotects
      cases hprotects
    rw [if_neg hbefore]
    by_cases hescape : c = escape
    · have hprotects : inert ctx.text escape origin (o + 1) = true := by
        rw [inert, hinert, hc, hescape, decide_eq_true horigin]
        simp
      have hlast' : (o : Int) = ((o + 1 : Nat) : Int) - 1 := by omega
      rw [if_pos hescape]
      refine ⟨by simp [hescape], ⟨⟨some o, rfl, ?_⟩, hnext, fun _ => by rw [← hlast']⟩, rfl⟩
      intro e he
      exact ⟨o, (Option.some.inj he).symm, hprotects⟩
    · have hfree : inert ctx.text escape origin (o + 1) = false := by
        rw [inert, hc]
        simp [hescape]
      rw [if_neg hescape]
      cases hmem : set.contains c with
      | true =>
        rw [if_pos rfl, (hctx.offset_of_text hc).1]
        exact ⟨by simp [hescape], hrecalls.at hnext hfree, rfl⟩
      | false =>
        rw [if_neg (by simp)]
        exact ⟨by simp, hrecalls.at hnext hfree, rfl⟩

theorem tracks_unescaped (hctx : ctx.Faithful) :
    Tracks ctx (ctx.unescaped set escape origin) (RecallsAt ctx set escape origin) where
  stops h hc := (stop_unescaped hctx h hc).1
  keeps {o c cond} h hc m hm hm' := by
    obtain ⟨-, hrecalls, hnext⟩ := stop_unescaped hctx h hc
    have hsucc : m = o + 1 := by omega
    rw [hsucc]
    exact hrecalls
  skips h hc m hm hm' := by
    obtain ⟨-, -, hnext⟩ := stop_unescaped hctx h hc
    omega

/-- All stops of a range are its live offsets. -/
theorem stopsUpTo_eq {live : Nat → Bool} {inv : Nat → Condition → Prop} (h : Tracks ctx live inv)
    (hctx : ctx.Faithful) {limit : Nat} (hlimit : limit ≤ ctx.document.length) (cur : Cursor)
    (cond : Condition) :
    ∀ start : Nat, cur.position = start → inv (min start limit) cond →
      (stopsUpTo ctx limit cur cond).offsets = liveBetween live start limit ∧
        inv limit (stopsUpTo ctx limit cur cond).condition := by
  fun_induction stopsUpTo ctx limit cur cond with
  | case1 cur cond out hstopped next hlt rest ih =>
    intro start hcur hinv
    obtain ⟨o, hfound, hposition, -, ho, hinv', hnext⟩ :=
      (forward_ends h hctx hlimit cur cond start hcur hinv).first hctx hlimit hstopped
    have hmoved : next = (o + 1 : Nat) := congrArg (· + 1) hposition
    obtain ⟨hrest, hinv''⟩ := ih (o + 1) hmoved (by rwa [Nat.min_eq_left ho])
    refine ⟨?_, hinv''⟩
    rw [hnext, ← hrest, Outcome.toOffset_of_found? hfound]
  | case2 cur cond out hstopped next hge =>
    intro start hcur hinv
    obtain ⟨o, hfound, hposition, -, ho, hinv', hnext⟩ :=
      (forward_ends h hctx hlimit cur cond start hcur hinv).first hctx hlimit hstopped
    have hmoved : next = (o + 1 : Nat) := congrArg (· + 1) hposition
    have hlast : o + 1 = limit := by omega
    have hnil : liveBetween live limit limit = [] := liveBetween_eq_nil fun p hp hp' => by omega
    rw [hlast] at hnext hinv'
    refine ⟨?_, hinv'⟩
    rw [hnext, hnil, Outcome.toOffset_of_found? hfound]
  | case3 cur cond out hstopped =>
    intro start hcur hinv
    obtain ⟨hinv', hnil⟩ :=
      (forward_ends h hctx hlimit cur cond start hcur hinv).nothing hstopped
    exact ⟨hnil.symm, hinv'⟩

/-- So are those between two offsets. -/
theorem stopsIn_live {live : Nat → Bool} {inv : Nat → Condition → Prop} (h : Tracks ctx live inv)
    (hctx : ctx.Faithful) (start : Nat) {finish : Nat} (hfinish : finish ≤ ctx.document.length)
    (cur : Cursor) {cond : Condition} (hinv : inv (min start finish) cond) :
    ∃ stops, stopsIn ctx start finish cur cond = .ok stops ∧
      stops.offsets = liveBetween live start finish ∧ inv finish stops.condition := by
  by_cases hlt : start < finish
  · have hstops : stopsIn ctx start finish cur cond =
        .ok (stopsUpTo ctx finish (cur.moveTo start) cond) := by
      rw [stopsIn, if_pos hlt, ctx.limit_offset finish hfinish, hctx.toPosition_eq hfinish,
        hctx.toPosition_eq (by omega)]
      rfl
    obtain ⟨hoffsets, hinv'⟩ := stopsUpTo_eq h hctx hfinish (cur.moveTo start) cond start rfl hinv
    exact ⟨_, hstops, hoffsets, hinv'⟩
  · rw [Nat.min_eq_right (Nat.le_of_not_lt hlt)] at hinv
    refine ⟨⟨[], cur, cond⟩, by rw [stopsIn, if_neg hlt], ?_, hinv⟩
    exact (liveBetween_eq_nil fun p hp hp' => by omega).symm

def liveAbove (live : Nat → Bool) (bound : Int) (o : Nat) : Bool :=
  decide (bound < o) && live o

theorem liveAbove_neg_one (live : Nat → Bool) : liveAbove live (-1) = live := by
  funext o
  rw [liveAbove, decide_eq_true (by omega), Bool.true_and]

theorem filter_liveBetween (hctx : ctx.Faithful) (live : Nat → Bool) (bound : Int) {low high : Nat}
    (hhigh : high ≤ ctx.document.length) :
    (liveBetween live low high).filter (fun n : Nat => bound < toPosition n) =
      liveBetween (liveAbove live bound) low high := by
  rw [liveBetween, List.filter_filter, liveBetween]
  apply List.filter_congr
  intro o ho
  obtain ⟨hlow, ho⟩ := List.mem_range'_1.mp ho
  rw [liveAbove, hctx.toPosition_eq (by omega)]

/-- What a search up the lines has found of the live offsets before an end: all of those on one
line, with none on the lines between that line and the end, and nothing only if there is none at
all. -/
structure FoundNearest (b : Buffer) (live : Nat → Bool) (finish : Nat) (r : LineStops) : Prop where
  on_line : ∀ o ∈ r.offsets, Buffer.extent (b.lines.take r.above) ≤ o ∧
    o < Buffer.extent (b.lines.take (r.above + 1))
  split : liveBetween live 0 finish =
    liveBetween live 0 (Buffer.extent (b.lines.take r.above)) ++ r.offsets
  exhausted : r.offsets = [] →
    liveBetween live 0 (Buffer.extent (b.lines.take r.above)) = []

/-- Line after line upwards, each read forward by itself, the stops above the bound are the last
live offsets that are left, if the start of a line is a place at which any condition that has come
so far may go on. -/
theorem nearestStops_live {live : Nat → Bool} {inv : Nat → Condition → Prop}
    (h : Tracks ctx live inv) (hctx : ctx.Faithful) (hdoc : ctx.document = b.document)
    (hline : ∀ {line m : Nat} {cond : Condition}, line < b.lines.length → inv m cond →
      inv (Buffer.extent (b.lines.take line)) cond)
    (bound : Int) {lines finish : Nat} (hlines : lines ≤ b.lines.length)
    (hfinish : b.EndsWithin lines finish) (cur : Cursor) {cond : Condition} {m : Nat}
    (hinv : inv m cond) :
    ∃ r, nearestStops ctx bound lines finish cur cond = .ok r ∧ (∃ m, inv m r.condition) ∧
      FoundNearest b (liveAbove live bound) finish r := by
  induction lines generalizing finish cur cond m with
  | zero =>
    have hzero : finish = 0 := Nat.le_zero.mp hfinish.2
    refine ⟨⟨[], 0, cur, cond⟩, rfl, ⟨m, hinv⟩, nofun, ?_, fun _ => rfl⟩
    rw [hzero, List.append_nil]
    rfl
  | succ line ih =>
    obtain ⟨start, hstart⟩ :
        ∃ start, start = Buffer.extent (b.lines.take line) := ⟨_, rfl⟩
    have hle : start ≤ finish := hstart ▸ hfinish.1
    have hend : finish ≤ ctx.document.length := hdoc ▸ hfinish.le_length
    have hanew : inv (min start finish) cond := by
      rw [Nat.min_eq_left hle, hstart]
      exact hline hlines hinv
    obtain ⟨stops, hstops, hoffsets, hinv'⟩ := stopsIn_live h hctx start hend cur hanew
    have hkept : (liveBetween live start finish).filter (fun n : Nat => bound < toPosition n) =
        liveBetween (liveAbove live bound) start finish := filter_liveBetween hctx live bound hend
    have hsplit : liveBetween (liveAbove live bound) 0 finish =
        liveBetween (liveAbove live bound) 0 start ++
          liveBetween (liveAbove live bound) start finish :=
      liveBetween_append (Nat.zero_le start) hle
    have hread : ctx.document.lineOffset line = .ok start := by
      rw [hdoc, hstart]
      exact Buffer.lineOffset_eq hlines
    rw [nearestStops, hread]
    simp only [hstops, hoffsets, hkept, hctx.toPosition_eq (Nat.le_trans hle hend)]
    by_cases hends : liveBetween (liveAbove live bound) start finish = [] → (start : Int) ≤ bound
    · refine ⟨_, if_pos (by simpa [Decidable.imp_iff_not_or] using hends), ⟨finish, hinv'⟩,
        fun o ho => ?_, hstart ▸ hsplit, fun hnil => ?_⟩
      · obtain ⟨hlow, hhigh, -⟩ := mem_liveBetween.mp ho
        exact ⟨hstart ▸ hlow, Nat.lt_of_lt_of_le hhigh hfinish.2⟩
      · -- Nothing is left above the bound, for this line begins at or below it.
        have hbelow : (start : Int) ≤ bound := hends hnil
        refine liveBetween_eq_nil fun o _ ho => ?_
        rw [← hstart] at ho
        rw [liveAbove, decide_eq_false (by omega), Bool.false_and]
    · obtain ⟨hnil, -⟩ := Classical.not_imp.mp hends
      obtain ⟨r, hr, hrest, hfound⟩ := ih (Nat.le_of_lt hlines)
        (Buffer.endsWithin_lineStart b line) stops.cursor hinv'
      refine ⟨r, ?_, hrest, hfound.on_line, ?_, hfound.exhausted⟩
      · rw [if_neg (by simpa [Decidable.imp_iff_not_or] using hends), hstart]
        exact hr
      · rw [hsplit, hnil, List.append_nil, hstart]
        exact hfound.split

/-- No line begins inert, so that escapes are tracked up the lines as in one pass over the text. -/
theorem nearestStops_unescaped (hctx : ctx.Faithful) (hdoc : ctx.document = b.document)
    (hb : b.Canonical) (hescape : Line.IsPlain escape) {lines finish : Nat}
    (hlines : lines ≤ b.lines.length) (hfinish : b.EndsWithin lines finish) (cur : Cursor)
    {cond : Condition} (hcond : Recalls ctx set escape 0 cond) :
    ∃ r, nearestStops ctx (-1) lines finish cur cond = .ok r ∧
      Recalls ctx set escape 0 r.condition ∧
      FoundNearest b (ctx.unescaped set escape 0) finish r := by
  have htext : ctx.text = b.text := by rw [Context.text, hdoc, Buffer.text_document]
  obtain ⟨r, hr, ⟨m, hrecalls⟩, hfound⟩ := nearestStops_live (tracks_unescaped hctx) hctx hdoc
    (fun hline hinv => hinv.1.at (Nat.zero_le _)
      (htext ▸ Buffer.inert_lineStart hb hescape hline))
    (-1) hlines hfinish cur (hcond.at (Nat.zero_le 0) rfl)
  rw [liveAbove_neg_one] at hfound
  exact ⟨r, hr, hrecalls.1, hfound⟩

/-- Unwinding stops is walking them. -/
theorem unwind_eq (hctx : ctx.Faithful) (pair : CharPair) (depth : Nat) (offsets : List Nat)
    (h : ∀ o ∈ offsets, o < ctx.document.length) :
    unwind ctx pair depth offsets = .ok (walk (ctx.nests pair pair.closing) depth offsets) := by
  induction offsets generalizing depth with
  | nil => rfl
  | cons o rest ih =>
    have ho : o < ctx.document.length := h o List.mem_cons_self
    obtain ⟨c, hc, hread⟩ := hctx.charAt_natCast ho
    rw [Context.charAt, hctx.toOffset_natCast (Nat.le_of_lt ho)] at hread
    rw [unwind, hread, walk_cons, ← Context.depthAfter_eq hc]
    by_cases hzero : pair.depthAfter pair.closing depth c = 0
    · simp only [if_pos hzero]
    · simp only [if_neg hzero]
      exact ih _ fun p hp => h p (List.mem_cons_of_mem o hp)

/-- The search up the lines walks the live offsets from the last to the first. -/
theorem openingEscapedFrom_eq (hctx : ctx.Faithful) (hdoc : ctx.document = b.document)
    (hb : b.Canonical) (hescape : Line.IsPlain escape) (pair : CharPair)
    (depth lines finish : Nat) (cur : Cursor) (cond : Condition) (hlines : lines ≤ b.lines.length)
    (hfinish : b.EndsWithin lines finish) (hcond : Recalls ctx set escape 0 cond) :
    ∃ cur', openingEscapedFrom ctx pair depth lines finish cur cond =
      .ok ((walk (ctx.nests pair pair.closing) depth
        (liveBetween (ctx.unescaped set escape 0) 0 finish).reverse).1, cur') := by
  induction lines using Nat.strongRecOn generalizing depth finish cur cond with
  | ind lines ih =>
    obtain ⟨r, hr, hrecalls, hfound⟩ :=
      nearestStops_unescaped hctx hdoc hb hescape hlines hfinish cur hcond
    have hlive := hfound.split
    rw [openingEscapedFrom]
    split
    · next e he =>
      rw [hr] at he
      cases he
    · next r' hr' =>
      cases hr.symm.trans hr'
      by_cases hnil : r.offsets = []
      · rw [hnil, List.append_nil, hfound.exhausted hnil] at hlive
        rw [dif_pos hnil, hlive]
        exact ⟨r.cursor, rfl⟩
      · have hlt : r.above < lines := nearestStops_above hr hnil
        have hunwind := unwind_eq hctx pair depth r.offsets.reverse (by
          intro o ho
          have hmem : o ∈ liveBetween (ctx.unescaped set escape 0) 0 finish := by
            rw [hlive]
            exact List.mem_append_right _ (List.mem_reverse.mp ho)
          rw [hdoc]
          exact Nat.lt_of_lt_of_le (mem_liveBetween.mp hmem).2.1 hfinish.le_length)
        rw [dif_neg hnil, hunwind, hlive, List.reverse_append, walk_append]
        cases hwalk : walk (ctx.nests pair pair.closing) depth r.offsets.reverse with
        | mk found depth' =>
          cases found with
          | some peer => exact ⟨r.cursor, rfl⟩
          | none =>
            have hread : ctx.document.lineOffset r.above =
                .ok (Buffer.extent (b.lines.take r.above)) := by
              rw [hdoc]
              exact Buffer.lineOffset_eq (Nat.lt_of_lt_of_le hlt hlines)
            rw [hread]
            exact ih r.above hlt depth' _ r.cursor r.condition (by omega)
              (Buffer.endsWithin_lineStart b r.above) hrecalls

theorem Context.unescaped_pair {pair : CharPair} {o : Nat}
    (h : ctx.unescaped pair.chars escape origin o = true) :
    ctx.text[o]? = some pair.opening ∨ ctx.text[o]? = some pair.closing := by
  rw [unescaped, Bool.and_eq_true, Bool.and_eq_true] at h
  exact passes_pair h.1.1

theorem openingPeerEscaped_spec (hctx : ctx.Faithful) (hdoc : ctx.document = b.document)
    (hb : b.Canonical) (hescape : Line.IsPlain escape) (start : Nat) (pair : CharPair)
    (cur : Cursor) :
    ∃ r cur', openingPeerEscaped start pair escape ctx cur = .ok (r, cur') ∧
      Greatest {q | ctx.OpensAt pair (ctx.unescaped pair.chars escape 0)
        (min start ctx.document.length) q} r := by
  have hne := hb.lines_ne_nil
  have hle : min start ctx.document.length ≤ b.length := by
    rw [hdoc]
    exact Nat.min_le_right _ _
  have hline : ctx.document.lineOfOffset (min start ctx.document.length) =
      .ok (Buffer.lineIndex b.lines (min start ctx.document.length)) := by
    rw [hdoc] at hle ⊢
    exact Buffer.lineOfOffset_eq hle
  obtain ⟨cur', hpeer⟩ := openingEscapedFrom_eq hctx hdoc hb hescape pair 1
    (Buffer.lineIndex b.lines (min start ctx.document.length) + 1)
    (min start ctx.document.length) cur (.escaping pair.chars escape)
    (Buffer.lineIndex_bounds b.lines (min start ctx.document.length) hne).1
    (Buffer.endsWithin_lineIndex hne hle) (recalls_escaping ctx pair.chars escape 0)
  refine ⟨_, cur', ?_, Context.greatest_opensAt (fun o ho => Context.unescaped_pair ho) _⟩
  simp only [openingPeerEscaped, hline, Bind.bind, Except.bind, hpeer]

end

/-- The peers of a pair whose characters may be escaped are found by counting the accepted ones that
are not, with escapes tracked from the start of the text going back and from behind the opening
character going forward. -/
theorem escaped_peers_exact (b : Buffer) (hmade : b.Made) (hb : b.length ≤ lastPosition)
    (classifier : Classifier) (filter : Filter) (pair : CharPair) (escape : Char)
    (hlf : escape ≠ '\n') (hcr : escape ≠ '\r') (start : Nat) (cur : Cursor) :
    let ctx : Context := ⟨b.document, classifier, filter⟩
    (∃ r cur', openingPeerEscaped start pair escape ctx cur = .ok (r, cur') ∧
      Greatest
        {q | ctx.OpensAt pair (ctx.unescaped pair.chars escape 0) (min start b.length) q} r) ∧
    (∃ r cur', closingPeerEscaped start pair escape ctx cur = .ok (r, cur') ∧
      (b.length ≤ start → r = none) ∧
      (start < b.length →
        Least
          {q | ctx.ClosesAt pair (ctx.unescaped pair.chars escape (start + 1)) start q} r)) := by
  intro ctx
  have hfaithful : ctx.Faithful := Context.faithful_document hb classifier filter
  constructor
  · exact openingPeerEscaped_spec hfaithful rfl hmade.canonical ⟨hlf, hcr⟩ start pair cur
  · have hrecalls := recalls_escaping ctx pair.chars escape (start + 1)
    exact closingPeerWith_spec (tracks_unescaped hfaithful) hfaithful pair
      (fun o ho => Context.unescaped_pair ho) start _
      (hrecalls.at (Nat.le_refl _) (inert_origin ctx.text escape (start + 1))) cur

/-- The first closing parenthesis is escaped, so that the one on the next line is the peer. -/
theorem escaped_peers_exact_next_line :
    let b := Buffer.scratch ['(', '\\', ')', '\r', '\n', ')']
    let ctx : Context := ⟨b.document, .whole, .any⟩
    b.Made ∧ b.length ≤ lastPosition ∧
      ∃ cur, closingPeerEscaped 0 .parentheses '\\' ctx {} = .ok (some 5, cur) := by
  intro b ctx
  have hmade : b.Made := .ofText "*scratch*" _
  have hb : b.length ≤ lastPosition := by decide
  obtain ⟨r, cur, hanswer, -, hleast⟩ := (escaped_peers_exact b hmade hb .whole .any .parentheses
    '\\' (by decide) (by decide) 0 {}).2
  have hcloses : ctx.ClosesAt .parentheses
      (ctx.unescaped CharPair.parentheses.chars '\\' 1) 0 5 := by decide
  have hfirst : ∀ p < 5, ¬ ctx.ClosesAt .parentheses
      (ctx.unescaped CharPair.parentheses.chars '\\' 1) 0 p := by decide
  obtain rfl : r = some 5 := (hleast (by decide)).unique
    (least_some hcloses fun p hp => Nat.le_of_not_lt fun hlt => hfirst p hlt hp)
  exact ⟨hmade, hb, cur, hanswer⟩

end Scan

end PartitionScan
