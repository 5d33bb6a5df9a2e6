import Mathlib.Data.List.Induction
import PartitionScan.Proofs.Escapes

/-!
# Peers are the pairs of a stack

One pass over the live offsets of a text pushes those that open and pops at those that close.
Counting depth from an offset that opens finds the one that pops it, and counting back from one that
closes finds the one it pops; so the two searches are inverse to each other, with escapes and
without.
-/
namespace PartitionScan.Scan

/-- How far a pass with a stack has got: the open offsets, the innermost first, and the pairs closed
so far. -/
structure Pairing where
  stack : List Nat := []
  pairs : List (Nat × Nat) := []
  deriving DecidableEq, Repr

namespace Pairing

/-- An offset that opens is pushed; any other closes the innermost open one, if there is one. -/
def step (opens : Nat → Bool) (s : Pairing) (o : Nat) : Pairing :=
  if opens o then { s with stack := o :: s.stack }
  else
    match s.stack with
    | [] => s
    | p :: stack => { stack, pairs := (p, o) :: s.pairs }

def run (opens : Nat → Bool) (s : Pairing) (offsets : List Nat) : Pairing :=
  offsets.foldl (step opens) s

section

variable {opens : Nat → Bool} {s : Pairing} {o : Nat}

@[simp] theorem run_nil : run opens s [] = s := rfl

@[simp] theorem run_cons {rest : List Nat} :
    run opens s (o :: rest) = run opens (step opens s o) rest := rfl

theorem run_append {front back : List Nat} :
    run opens s (front ++ back) = run opens (run opens s front) back :=
  List.foldl_append

theorem step_of_opens (h : opens o = true) : step opens s o = { s with stack := o :: s.stack } :=
  if_pos h

theorem stack_step_of_closes (h : opens o = false) : (step opens s o).stack = s.stack.tail := by
  rw [step, if_neg (by simp [h])]
  cases hs : s.stack with
  | nil => simp [hs]
  | cons p stack => rfl

theorem step_of_pops (h : opens o = false) {p : Nat} {stack : List Nat}
    (hs : s.stack = p :: stack) : step opens s o = { stack, pairs := (p, o) :: s.pairs } := by
  rw [step, if_neg (by simp [h]), hs]

/-- What a step pairs is what it pops. -/
theorem mem_pairs_step {q : Nat × Nat} : q ∈ (step opens s o).pairs ↔
    q ∈ s.pairs ∨ opens o = false ∧ s.stack.head? = some q.1 ∧ q.2 = o := by
  cases ho : opens o with
  | true => simp [step_of_opens ho]
  | false =>
    cases hs : s.stack with
    | nil => simp [step, ho, hs]
    | cons p stack =>
      rw [step_of_pops ho hs, List.mem_cons, Prod.ext_iff]
      simp only [List.head?_cons, Option.some.injEq, true_and]
      constructor
      · rintro (⟨hp, hq⟩ | h)
        · exact .inr ⟨hp.symm, hq⟩
        · exact .inl h
      · rintro (h | ⟨hp, hq⟩)
        · exact .inr h
        · exact .inl ⟨hp.symm, hq⟩

/-- A closing offset is paired with the top of the stack that the offsets before it leave. -/
theorem mem_pairs_run {offsets : List Nat} {q : Nat × Nat} : q ∈ (run opens s offsets).pairs ↔
    q ∈ s.pairs ∨ ∃ front back, offsets = front ++ q.2 :: back ∧ opens q.2 = false ∧
      (run opens s front).stack.head? = some q.1 := by
  induction offsets generalizing s with
  | nil => simp
  | cons o rest ih =>
    rw [run_cons, ih, mem_pairs_step]
    constructor
    · rintro ((h | ⟨ho, hhead, rfl⟩) | ⟨front, back, rfl, hq, hhead⟩)
      · exact .inl h
      · exact .inr ⟨[], rest, rfl, ho, hhead⟩
      · exact .inr ⟨o :: front, back, rfl, hq, hhead⟩
    · rintro (h | ⟨front, back, hcut, hq, hhead⟩)
      · exact .inl (.inl h)
      · cases front with
        | nil =>
          obtain ⟨rfl, rfl⟩ := List.cons.inj hcut
          exact .inl (.inr ⟨hq, hhead, rfl⟩)
        | cons p front =>
          obtain ⟨rfl, rfl⟩ := List.cons.inj hcut
          exact .inr ⟨front, back, rfl, hq, hhead⟩

/-- Whatever is on the stack was there before or has been passed. -/
theorem mem_stack_run {offsets : List Nat} {p : Nat} (h : p ∈ (run opens s offsets).stack) :
    p ∈ s.stack ∨ p ∈ offsets := by
  induction offsets generalizing s with
  | nil => exact .inl h
  | cons o rest ih =>
    rcases ih h with hp | hp
    · cases ho : opens o with
      | true =>
        rw [step_of_opens ho, List.mem_cons] at hp
        rcases hp with rfl | hp
        · exact .inr List.mem_cons_self
        · exact .inl hp
      | false =>
        rw [stack_step_of_closes ho] at hp
        exact .inl (List.mem_of_mem_tail hp)
    · exact .inr (List.mem_cons_of_mem o hp)

/-- An offset that is neither open nor still to come is paired no more. -/
theorem mem_pairs_run_of_not_mem {offsets : List Nat} {q : Nat × Nat} (hstack : q.1 ∉ s.stack)
    (hoffsets : q.1 ∉ offsets) : q ∈ (run opens s offsets).pairs ↔ q ∈ s.pairs := by
  rw [mem_pairs_run, or_iff_left]
  rintro ⟨front, back, rfl, -, hhead⟩
  rcases mem_stack_run (List.mem_of_head? hhead) with h | h
  · exact hstack h
  · exact hoffsets (List.mem_append_left _ h)

/-- The stack holds at depth `k` what a walk back from depth `k + 1` finds. -/
theorem stack_run_eq_walk (closes : Nat → Bool) (offsets : List Nat)
    (h : ∀ o ∈ offsets, closes o = !opens o) (k : Nat) :
    (run opens {} offsets).stack[k]? = (walk closes (k + 1) offsets.reverse).1 := by
  induction offsets using List.reverseRecOn generalizing k with
  | nil => rfl
  | append_singleton offsets o ih =>
    have hoffsets : ∀ p ∈ offsets, closes p = !opens p :=
      fun p hp => h p (List.mem_append_left _ hp)
    have ho : closes o = !opens o := h o (List.mem_append_right _ List.mem_cons_self)
    rw [run_append, run_cons, run_nil, List.reverse_concat, walk_cons, ho]
    cases hopens : opens o with
    | true =>
      rw [step_of_opens hopens]
      cases k with
      | zero => rfl
      | succ k => simpa using ih hoffsets k
    | false =>
      rw [stack_step_of_closes hopens, List.getElem?_tail]
      simpa using ih hoffsets (k + 1)

/-- An open offset below `front` is paired with what a walk from its depth finds. -/
theorem mem_pairs_run_of_open (front : List Nat) {back offsets : List Nat} {c : Nat}
    (hs : s.stack = front ++ o :: back) (hfront : o ∉ front) (hback : o ∉ back)
    (hoffsets : o ∉ offsets) (hpairs : ∀ c, (o, c) ∉ s.pairs) :
    (o, c) ∈ (run opens s offsets).pairs ↔
      (walk opens (front.length + 1) offsets).1 = some c := by
  induction offsets generalizing s front with
  | nil => simpa [walk] using hpairs c
  | cons p rest ih =>
    have hp : o ≠ p := fun h => hoffsets (h ▸ List.mem_cons_self)
    have hrest : o ∉ rest := fun h => hoffsets (List.mem_cons_of_mem p h)
    rw [run_cons, walk_cons]
    cases hopens : opens p with
    | true =>
      rw [step_of_opens hopens, if_pos rfl, if_neg (Nat.succ_ne_zero _)]
      exact ih (p :: front) (by rw [hs]; rfl) (by simp [hp, hfront]) hrest hpairs
    | false =>
      cases front with
      | nil =>
        rw [List.nil_append] at hs
        rw [step_of_pops hopens hs, mem_pairs_run_of_not_mem hback hrest]
        simp [hpairs c, eq_comm]
      | cons q front =>
        have hq : o ≠ q := fun h => hfront (h ▸ List.mem_cons_self)
        rw [step_of_pops hopens (by rw [hs]; rfl)]
        refine ih front rfl (fun h => hfront (List.mem_cons_of_mem q h)) hrest ?_
        intro c' hc'
        rcases List.mem_cons.mp hc' with h | h
        · exact hq (Prod.ext_iff.mp h).1
        · exact hpairs c' h

end

end Pairing

namespace Context

/-- The pairs of one pass with a stack over the live offsets: an opening character pushes, a closing
one pops. -/
def stackPairs (ctx : Context) (pair : CharPair) (live : Nat → Bool) : List (Nat × Nat) :=
  (Pairing.run (fun o => ctx.text[o]? == some pair.opening) {}
    (liveBetween live 0 ctx.text.length)).pairs

section

variable {ctx : Context} {pair : CharPair} {live : Nat → Bool} (hpair : pair.isSymmetric = false)
  (hlive : ∀ o, live o = true →
    ctx.text[o]? = some pair.opening ∨ ctx.text[o]? = some pair.closing)
include hpair

theorem nests_asymmetric (c : Char) : ctx.nests pair c = fun o => ctx.text[o]? == some c := by
  funext o
  rw [nests, hpair, Bool.not_false, Bool.and_true]

include hlive

/-- The closing peer of an opening offset is the one that pops it. -/
theorem least_closesAt_iff {o : Nat} (ho : live o = true)
    (hopening : ctx.text[o]? = some pair.opening) {r : Option Nat}
    (hr : Least {q | ctx.ClosesAt pair live o q} r) (c : Nat) :
    r = some c ↔ (o, c) ∈ ctx.stackPairs pair live := by
  have hlength : o < ctx.text.length := (List.getElem?_eq_some_iff.mp hopening).1
  have hcut : liveBetween live 0 ctx.text.length =
      liveBetween live 0 o ++ o :: liveBetween live (o + 1) ctx.text.length := by
    rw [liveBetween_append (Nat.zero_le o) (Nat.le_of_lt hlength), liveBetween_cons ho hlength]
  have hbefore : o ∉ liveBetween live 0 o := fun h => Nat.lt_irrefl o (mem_liveBetween.mp h).2.1
  have hbehind : o ∉ liveBetween live (o + 1) ctx.text.length :=
    fun h => Nat.not_succ_le_self o (mem_liveBetween.mp h).1
  have hopens : (ctx.text[o]? == some pair.opening) = true := by simpa using hopening
  rw [hr.unique (least_closesAt hlive o), nests_asymmetric hpair, stackPairs, hcut,
    Pairing.run_append, Pairing.run_cons, Pairing.step_of_opens hopens]
  refine (Pairing.mem_pairs_run_of_open [] rfl List.not_mem_nil ?_ hbehind ?_).symm
  · intro h
    rcases Pairing.mem_stack_run h with h | h
    · cases h
    · exact hbefore h
  · intro c' h
    rw [Pairing.mem_pairs_run_of_not_mem List.not_mem_nil hbefore] at h
    cases h

/-- The opening peer of a closing offset is the one it pops. -/
theorem greatest_opensAt_iff {c : Nat} (hc : live c = true)
    (hclosing : ctx.text[c]? = some pair.closing) {r : Option Nat}
    (hr : Greatest {q | ctx.OpensAt pair live c q} r) (o : Nat) :
    r = some o ↔ (o, c) ∈ ctx.stackPairs pair live := by
  have hlength : c < ctx.text.length := (List.getElem?_eq_some_iff.mp hclosing).1
  have hne := CharPair.opening_ne_closing hpair
  have hstack : (walk (ctx.nests pair pair.closing) 1 (liveBetween live 0 c).reverse).1 =
      (Pairing.run (fun o => ctx.text[o]? == some pair.opening) {}
        (liveBetween live 0 c)).stack.head? := by
    rw [List.head?_eq_getElem?, Pairing.stack_run_eq_walk (ctx.nests pair pair.closing)]
    intro p hp
    rw [nests_asymmetric hpair]
    rcases hlive p (mem_liveBetween.mp hp).2.2 with h | h
    · simp [h, hne]
    · simp [h, hne.symm]
  rw [hr.unique (greatest_opensAt hlive c), hstack, stackPairs, Pairing.mem_pairs_run]
  constructor
  · intro hhead
    refine .inr ⟨liveBetween live 0 c, liveBetween live (c + 1) ctx.text.length, ?_, ?_, hhead⟩
    · rw [liveBetween_append (Nat.zero_le c) (Nat.le_of_lt hlength), liveBetween_cons hc hlength]
    · simp [hclosing, hne.symm]
  · rintro (h | ⟨front, back, hcut, -, hhead⟩)
    · cases h
    · rw [(liveBetween_cut hcut).1] at hhead
      exact hhead

end

/-- Whether a closing peer is found depends on the live offsets behind the start only. -/
theorem closesAt_congr {ctx : Context} {pair : CharPair} {live live' : Nat → Bool} {start : Nat}
    (h : ∀ p, start < p → live p = live' p) (q : Nat) :
    ctx.ClosesAt pair live start q ↔ ctx.ClosesAt pair live' start q := by
  have hbetween : ∀ high,
      liveBetween live (start + 1) high = liveBetween live' (start + 1) high := by
    intro high
    apply List.filter_congr
    intro p hp
    exact h p (List.mem_range'_1.mp hp).1
  simp only [ClosesAt, count, hbetween]
  constructor
  · rintro ⟨hq, hlive, hcount⟩
    exact ⟨hq, h q hq ▸ hlive, hcount⟩
  · rintro ⟨hq, hlive, hcount⟩
    exact ⟨hq, (h q hq).symm ▸ hlive, hcount⟩

end Context

/-- Behind an offset that protects nothing, escapes may as well be tracked from there. -/
theorem inert_from {text : List Char} {escape : Char} {o : Nat}
    (h : inert text escape 0 (o + 1) = false) {p : Nat} (hp : o + 1 ≤ p) :
    inert text escape 0 p = inert text escape (o + 1) p := by
  induction hp with
  | refl => rw [h, inert_origin]
  | @step p hp ih =>
    have hp' : o + 1 ≤ p := hp
    rw [inert, inert, ih, decide_eq_true hp', decide_eq_true (Nat.zero_le p)]

theorem Context.unescaped_from {ctx : Context} {set : List Char} {escape : Char} {o : Nat}
    (h : ctx.unescaped set escape 0 o = true) {p : Nat} (hp : o < p) :
    ctx.unescaped set escape (o + 1) p = ctx.unescaped set escape 0 p := by
  have hfree : inert ctx.text escape 0 (o + 1) = false := by
    rw [unescaped, Bool.and_eq_true, Bool.and_eq_true, bne_iff_ne] at h
    rw [inert, beq_eq_false_iff_ne.mpr h.1.2, Bool.and_false, Bool.false_and]
  rw [unescaped, unescaped, inert_from hfree hp]

/-- A search that finds for every live opening offset the one that pops it in a pass with a stack,
and nothing if none does. -/
def FindsClosing (ctx : Context) (pair : CharPair) (live : Nat → Bool)
    (search : Nat → Query (Option Nat)) : Prop :=
  ∀ o cur, live o = true → ctx.text[o]? = some pair.opening →
    ∃ r cur', search o ctx cur = .ok (r, cur') ∧
      ∀ c, r = some c ↔ (o, c) ∈ ctx.stackPairs pair live

def FindsOpening (ctx : Context) (pair : CharPair) (live : Nat → Bool)
    (search : Nat → Query (Option Nat)) : Prop :=
  ∀ c cur, live c = true → ctx.text[c]? = some pair.closing →
    ∃ r cur', search c ctx cur = .ok (r, cur') ∧
      ∀ o, r = some o ↔ (o, c) ∈ ctx.stackPairs pair live

/-- Two searches that find the pairs of one pass with a stack, each from its own side, and so are
inverse to each other. -/
structure FindsPairs (ctx : Context) (pair : CharPair) (live : Nat → Bool)
    (closingOf openingOf : Nat → Query (Option Nat)) : Prop where
  closing : FindsClosing ctx pair live closingOf
  opening : FindsOpening ctx pair live openingOf
  inverse : ∀ o c cur cur', live o = true → ctx.text[o]? = some pair.opening →
    live c = true → ctx.text[c]? = some pair.closing →
    ((∃ next, closingOf o ctx cur = .ok (some c, next)) ↔
      ∃ next, openingOf c ctx cur' = .ok (some o, next))

theorem answers_iff {ctx : Context} {q : Query (Option Nat)} {cur next : Cursor} {r : Option Nat}
    (h : q ctx cur = .ok (r, next)) (o : Nat) :
    (∃ next, q ctx cur = .ok (some o, next)) ↔ r = some o := by
  rw [h]
  simp

/-- Searches that agree with the same pairs are inverse to each other. -/
theorem FindsClosing.findsPairs {ctx : Context} {pair : CharPair} {live : Nat → Bool}
    {closingOf openingOf : Nat → Query (Option Nat)}
    (hclosing : FindsClosing ctx pair live closingOf)
    (hopening : FindsOpening ctx pair live openingOf) :
    FindsPairs ctx pair live closingOf openingOf where
  closing := hclosing
  opening := hopening
  inverse o c cur cur' ho hotext hc hctext := by
    obtain ⟨r, next, hr, hpairs⟩ := hclosing o cur ho hotext
    obtain ⟨r', next', hr', hpairs'⟩ := hopening c cur' hc hctext
    rw [answers_iff hr, answers_iff hr', hpairs, hpairs']

section

variable {ctx : Context} {pair : CharPair} (hctx : ctx.Faithful) (hpair : pair.isSymmetric = false)
include hctx hpair

theorem findsPairs_gated (hcoherent : ctx.Coherent) :
    FindsPairs ctx pair (ctx.passes fun c => pair.chars.contains c)
      (closingPeer · pair) (openingPeer · pair) := by
  have hgate := gates_gate ctx (.among pair.chars)
  apply FindsClosing.findsPairs
  · intro o cur ho hopening
    have hlength : o < ctx.document.length :=
      hctx.length_eq ▸ (List.getElem?_eq_some_iff.mp hopening).1
    obtain ⟨r, cur', hanswer, -, hleast⟩ :=
      closingPeerWith_spec (tracks_gate rfl hcoherent hctx) hctx
      pair (fun p hp => Context.passes_pair hp) o _ hgate cur
    exact ⟨r, cur', hanswer, Context.least_closesAt_iff hpair (fun p hp => Context.passes_pair hp)
      ho hopening (hleast hlength)⟩
  · intro c cur hc hclosing
    have hlength : c < ctx.document.length :=
      hctx.length_eq ▸ (List.getElem?_eq_some_iff.mp hclosing).1
    have hmin : min c ctx.document.length = c := Nat.min_eq_left (Nat.le_of_lt hlength)
    refine ⟨_, _, openingPeer_eq hctx c pair cur, Context.greatest_opensAt_iff hpair
      (fun p hp => Context.passes_pair hp) hc hclosing ?_⟩
    rw [openingFrom_eq (retraces_gate rfl hcoherent hctx) hctx pair 1 _ _ hgate
      (min c ctx.document.length) rfl (Nat.min_le_right c ctx.document.length), hmin]
    exact Context.greatest_opensAt (fun p hp => Context.passes_pair hp) c

theorem findsPairs_escaped {b : Buffer} (hdoc : ctx.document = b.document) (hb : b.Canonical)
    {escape : Char} (hescape : Line.IsPlain escape) :
    FindsPairs ctx pair (ctx.unescaped pair.chars escape 0)
      (closingPeerEscaped · pair escape) (openingPeerEscaped · pair escape) := by
  apply FindsClosing.findsPairs
  · intro o cur ho hopening
    have hlength : o < ctx.document.length :=
      hctx.length_eq ▸ (List.getElem?_eq_some_iff.mp hopening).1
    have hrecalls := recalls_escaping ctx pair.chars escape (o + 1)
    obtain ⟨r, cur', hanswer, -, hleast⟩ := closingPeerWith_spec (tracks_unescaped hctx) hctx pair
      (fun p hp => Context.unescaped_pair hp) o _
      (hrecalls.at (Nat.le_refl _) (inert_origin ctx.text escape (o + 1))) cur
    refine ⟨r, cur', hanswer, Context.least_closesAt_iff hpair
      (fun p hp => Context.unescaped_pair hp) ho hopening ?_⟩
    -- The search tracks escapes from behind `o` only, which is the same, as `o` is no escape.
    have hsame (q : Nat) : ctx.ClosesAt pair (ctx.unescaped pair.chars escape (o + 1)) o q ↔
        ctx.ClosesAt pair (ctx.unescaped pair.chars escape 0) o q :=
      Context.closesAt_congr (fun p hp => Context.unescaped_from ho hp) q
    simpa only [hsame] using hleast hlength
  · intro c cur hc hclosing
    have hlength : c < ctx.document.length :=
      hctx.length_eq ▸ (List.getElem?_eq_some_iff.mp hclosing).1
    obtain ⟨r, cur', hanswer, hgreatest⟩ := openingPeerEscaped_spec hctx hdoc hb hescape c pair cur
    rw [Nat.min_eq_left (Nat.le_of_lt hlength)] at hgreatest
    exact ⟨r, cur', hanswer, Context.greatest_opensAt_iff hpair
      (fun p hp => Context.unescaped_pair hp) hc hclosing hgreatest⟩

end

/-- The peers of an asymmetric pair are the pairs of one pass with a stack over the accepted
characters of the pair, and with escapes over those of them that no escape protects and that are
none themselves. -/
theorem peers_are_stack_pairs (b : Buffer) (hmade : b.Made) (hb : b.length ≤ lastPosition)
    (classifier : Classifier) (hclassifier : classifier.Standard) (filter : Filter)
    (pair : CharPair) (hpair : pair.isSymmetric = false) (escape : Char) (hlf : escape ≠ '\n')
    (hcr : escape ≠ '\r') :
    let ctx : Context := ⟨b.document, classifier, filter⟩
    FindsPairs ctx pair (ctx.passes fun c => pair.chars.contains c)
      (closingPeer · pair) (openingPeer · pair) ∧
    FindsPairs ctx pair (ctx.unescaped pair.chars escape 0)
      (closingPeerEscaped · pair escape) (openingPeerEscaped · pair escape) := by
  intro ctx
  have hfaithful : ctx.Faithful := Context.faithful_document hb classifier filter
  exact ⟨findsPairs_gated hfaithful hpair (hclassifier.coherent b.document),
    findsPairs_escaped hfaithful hpair rfl hmade.canonical ⟨hlf, hcr⟩⟩

/-- The second of the closing parentheses is escaped, so that the third closes the outer pair. -/
theorem peers_are_stack_pairs_nested :
    let b := Buffer.scratch ['(', '(', ')', '\\', ')', '\n', ')', ')']
    let ctx : Context := ⟨b.document, .whole, .any⟩
    let live := ctx.unescaped CharPair.parentheses.chars '\\' 0
    b.Made ∧ b.length ≤ lastPosition ∧ CharPair.parentheses.isSymmetric = false ∧
      ctx.stackPairs .parentheses live = [(0, 6), (1, 2)] ∧
      (∃ cur, closingPeerEscaped 0 .parentheses '\\' ctx {} = .ok (some 6, cur)) ∧
      (∃ cur, openingPeerEscaped 6 .parentheses '\\' ctx {} = .ok (some 0, cur)) ∧
      ∃ cur, openingPeerEscaped 7 .parentheses '\\' ctx {} = .ok (none, cur) := by
  intro b ctx live
  have hmade : b.Made := .ofText "*scratch*" _
  have hb : b.length ≤ lastPosition := by decide
  have hpairs : ctx.stackPairs .parentheses live = [(0, 6), (1, 2)] := by decide
  have hfinds : FindsPairs ctx .parentheses live (closingPeerEscaped · .parentheses '\\')
      (openingPeerEscaped · .parentheses '\\') :=
    (peers_are_stack_pairs b hmade hb .whole .whole .any .parentheses rfl '\\' (by decide)
      (by decide)).2
  obtain ⟨r, cur, hr, hrpairs⟩ := hfinds.closing 0 {} (by decide) (by decide)
  obtain ⟨s, cur', hs, hspairs⟩ := hfinds.opening 6 {} (by decide) (by decide)
  obtain ⟨t, cur'', ht, htpairs⟩ := hfinds.opening 7 {} (by decide) (by decide)
  rw [hpairs] at hrpairs hspairs htpairs
  obtain rfl : r = some 6 := (hrpairs 6).mpr (by decide)
  obtain rfl : s = some 0 := (hspairs 0).mpr (by decide)
  obtain rfl : t = none := by
    cases t with
    | none => rfl
    | some o => simpa using (htpairs o).mp rfl
  exact ⟨hmade, hb, rfl, hpairs, ⟨cur, hr⟩, ⟨cur', hs⟩, ⟨cur'', ht⟩⟩

end PartitionScan.Scan
