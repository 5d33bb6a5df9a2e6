import PartitionScan.Language.LineSpans
import PartitionScan.Pattern.Bounds
import PartitionScan.Text.Bytes

/-!
# Spans of a line, by places

The spans that the matcher's own search gives a line can be found by a recursion on the places of
its characters. Whatever rules a language has, they hold a character each, lie inside the line and
follow each other, for every search of a pattern looks to the right of where the last span ended.
Which rule makes the next span is settled by where its match begins, and on a tie by the order of
the rules.
-/
namespace PartitionScan

def Span.inBytes (text : List Char) (s : Span) : Span :=
  { s with start := byteOffset text s.start, finish := byteOffset text s.finish }

def LineSpans.inBytes (text : List Char) (r : LineSpans) : LineSpans :=
  { r with spans := r.spans.map (Span.inBytes text) }

def LineSpans.cons (start finish : Nat) (kind : String) (rest : LineSpans) : LineSpans :=
  if start < finish then { rest with spans := ⟨start, finish, kind⟩ :: rest.spans } else rest

namespace Span

variable {start finish : Nat}

theorem inOrder_cons {s : Span} {rest : List Span} (hstart : start ≤ s.start)
    (hs : s.start < s.finish) (hrest : InOrder s.finish rest finish) (hfinish : s.finish ≤ finish) :
    InOrder start (s :: rest) finish where
  inside t ht := by
    rcases List.mem_cons.mp ht with rfl | ht
    · exact ⟨hstart, hs, hfinish⟩
    · have := hrest.inside t ht
      exact ⟨by omega, this.2⟩
  apart := List.pairwise_cons.mpr ⟨fun t ht => (hrest.inside t ht).1, hrest.apart⟩

theorem InOrder.mono {start' : Nat} {spans : List Span} (h : InOrder start spans finish)
    (hle : start' ≤ start) : InOrder start' spans finish where
  inside s hs := by
    have := h.inside s hs
    exact ⟨by omega, this.2⟩
  apart := h.apart

/-- A span in front of later ones is in order, also if it is left out for being empty. -/
theorem InOrder.cons {first last next : Nat} {rest : LineSpans} (h : InOrder next rest.spans finish)
    (hstart : start ≤ first) (hfirst : first ≤ next) (hlast : last ≤ next) (hfinish : last ≤ finish)
    (kind : String) : InOrder start (rest.cons first last kind).spans finish := by
  rw [LineSpans.cons]
  split
  · next hlt => exact inOrder_cons hstart hlt (h.mono hlast) hfinish
  · exact h.mono (Nat.le_trans hstart hfirst)

end Span

theorem Pattern.findBeforeEnd_bounds {p : Pattern} {text : Array Char} {i : Nat} {m : Nat × Nat}
    (h : p.findBeforeEnd text i = some m) : i ≤ m.1 ∧ m.1 ≤ m.2 ∧ m.2 ≤ text.size := by
  rw [findBeforeEnd] at h
  split at h
  · exact find_bounds h
  · cases h

namespace BlockRule

theorem findUnescaped_bounds {p : Pattern} {text : Array Char} {escape : Char}
    {start i finish : Nat} (h : findUnescaped p text escape start i = some finish) :
    i ≤ finish ∧ finish ≤ text.size := by
  fun_induction findUnescaped p text escape start i with
  | case1 => cases h
  | case2 i hi first last hfind heven =>
    obtain rfl := Option.some.inj h
    have := Pattern.find_bounds hfind
    omega
  | case3 i hi first last hfind hodd ih =>
    have := ih h
    omega
  | case4 => cases h

/-- A construct ends behind where its end is looked for. -/
theorem findEnd_bounds {r : BlockRule} {text : Array Char} {i finish : Nat}
    (h : r.findEnd text i = some finish) : i ≤ finish ∧ finish ≤ text.size := by
  rw [findEnd] at h
  split at h
  · exact findUnescaped_bounds h
  · obtain ⟨m, hm, rfl⟩ := Option.map_eq_some_iff.mp h
    have := Pattern.findBeforeEnd_bounds hm
    omega

end BlockRule

namespace Language

def openings (lang : Language) (text : Array Char) (i : Nat) : List Opening :=
  (lang.blocks.filterMap fun r => (r.findStart text i).map fun m => .block r m.1 m.2) ++
    (lang.lines.filterMap fun r => (r.find text i).map fun m => .line r m.1 m.2)

def nextOpening (lang : Language) (text : Array Char) (i : Nat) : Option Opening :=
  earliest (lang.openings text i)

theorem openings_bounds {lang : Language} {text : Array Char} {i : Nat} {o : Opening}
    (h : o ∈ lang.openings text i) : i ≤ o.start ∧ o.start ≤ o.finish ∧ o.finish ≤ text.size := by
  simp only [openings, List.mem_append, List.mem_filterMap, Option.map_eq_some_iff] at h
  rcases h with ⟨r, -, m, hm, rfl⟩ | ⟨r, -, m, hm, rfl⟩
  · exact Pattern.findBeforeEnd_bounds hm
  · exact Pattern.findBeforeEnd_bounds hm

theorem nextOpening_bounds {lang : Language} {text : Array Char} {i : Nat} {o : Opening}
    (h : lang.nextOpening text i = some o) :
    i ≤ o.start ∧ o.start ≤ o.finish ∧ o.finish ≤ text.size :=
  openings_bounds (earliest_mem h)

/-- The spans from place `i` on, entered in a state. An unknown state counts as 0. -/
def spansFrom (lang : Language) (text : Array Char) (i state : Nat) : LineSpans :=
  if i < text.size then
    match lang.enclosing? state with
    | some rule =>
      match rule.findEnd text i with
      | some finish => (lang.spansFrom text (max finish (i + 1)) 0).cons i finish rule.kind
      | none => ⟨[⟨i, text.size, rule.kind⟩], state⟩
    | none =>
      match _h : lang.nextOpening text i with
      | none => ⟨[], 0⟩
      | some (.line rule start finish) =>
        (lang.spansFrom text (max finish (start + 1)) 0).cons start finish rule.kind
      | some (.block rule start opened) =>
        match rule.findEnd text opened with
        | some finish =>
          (lang.spansFrom text (max finish (start + 1)) 0).cons start finish rule.kind
        | none => (LineSpans.mk [] rule.id).cons start text.size rule.kind
  else ⟨[], state⟩
termination_by text.size - i
decreasing_by
  · omega
  · have : i ≤ start := (nextOpening_bounds _h).1
    omega
  · have : i ≤ start := (nextOpening_bounds _h).1
    omega

def lineSpans (lang : Language) (text : List Char) (state : Nat) : LineSpans :=
  lang.spansFrom text.toArray 0 state

/-- An opening wins if those of earlier rules begin behind it and those of later rules not before
it. -/
theorem earliest_append_cons {front back : List Opening} {o : Opening}
    (hfront : ∀ p ∈ front, o.start < p.start) (hback : ∀ p ∈ back, o.start ≤ p.start) :
    earliest (front ++ o :: back) = some o := by
  induction front with
  | nil =>
    rw [List.nil_append, earliest]
    cases hrest : earliest back with
    | none => rfl
    | some p => exact if_neg (Nat.not_lt.mpr (hback p (earliest_mem hrest)))
  | cons p front ih =>
    have hrest := ih fun q hq => hfront q (List.mem_cons_of_mem p hq)
    rw [List.cons_append, earliest, hrest]
    exact if_pos (hfront p List.mem_cons_self)

section

variable {lang : Language} {text : Array Char} {i start finish : Nat}

/-- No rule finds anything. -/
theorem nextOpening_eq_none (hblocks : ∀ r ∈ lang.blocks, r.findStart text i = none)
    (hlines : ∀ r ∈ lang.lines, r.find text i = none) : lang.nextOpening text i = none := by
  have hopenings : lang.openings text i = [] := by
    rw [openings, List.append_eq_nil_iff, List.filterMap_eq_nil_iff, List.filterMap_eq_nil_iff]
    exact ⟨fun r hr => by rw [hblocks r hr]; rfl, fun r hr => by rw [hlines r hr]; rfl⟩
  rw [nextOpening, hopenings]
  rfl

theorem forall_block_start {P : Nat → Prop} {rules : List BlockRule}
    (h : ∀ r ∈ rules, ∀ m, r.findStart text i = some m → P m.1) :
    ∀ o ∈ rules.filterMap fun r => (r.findStart text i).map fun m => Opening.block r m.1 m.2,
      P o.start := by
  intro o ho
  obtain ⟨r, hr, ho⟩ := List.mem_filterMap.mp ho
  obtain ⟨m, hm, rfl⟩ := Option.map_eq_some_iff.mp ho
  exact h r hr m hm

theorem forall_line_start {P : Nat → Prop} {rules : List LineRule}
    (h : ∀ r ∈ rules, ∀ m, r.find text i = some m → P m.1) :
    ∀ o ∈ rules.filterMap fun r => (r.find text i).map fun m => Opening.line r m.1 m.2,
      P o.start := by
  intro o ho
  obtain ⟨r, hr, ho⟩ := List.mem_filterMap.mp ho
  obtain ⟨m, hm, rfl⟩ := Option.map_eq_some_iff.mp ho
  exact h r hr m hm

/-- A block rule wins against later block rules and all line rules on a tie. -/
theorem nextOpening_eq_block {r : BlockRule} {front back : List BlockRule}
    (hr : lang.blocks = front ++ r :: back) (hfound : r.findStart text i = some (start, finish))
    (hfront : ∀ r' ∈ front, ∀ m, r'.findStart text i = some m → start < m.1)
    (hback : ∀ r' ∈ back, ∀ m, r'.findStart text i = some m → start ≤ m.1)
    (hlines : ∀ r' ∈ lang.lines, ∀ m, r'.find text i = some m → start ≤ m.1) :
    lang.nextOpening text i = some (.block r start finish) := by
  rw [nextOpening, openings, hr, List.filterMap_append, List.filterMap_cons, hfound,
    Option.map_some, List.append_assoc, List.cons_append]
  apply earliest_append_cons
  · exact forall_block_start hfront
  · exact List.forall_mem_append.mpr ⟨forall_block_start hback, forall_line_start hlines⟩

/-- A line rule wins against later line rules on a tie. -/
theorem nextOpening_eq_line {r : LineRule} {front back : List LineRule}
    (hr : lang.lines = front ++ r :: back) (hfound : r.find text i = some (start, finish))
    (hblocks : ∀ r' ∈ lang.blocks, ∀ m, r'.findStart text i = some m → start < m.1)
    (hfront : ∀ r' ∈ front, ∀ m, r'.find text i = some m → start < m.1)
    (hback : ∀ r' ∈ back, ∀ m, r'.find text i = some m → start ≤ m.1) :
    lang.nextOpening text i = some (.line r start finish) := by
  rw [nextOpening, openings, hr, List.filterMap_append, List.filterMap_cons, hfound,
    Option.map_some, ← List.append_assoc]
  apply earliest_append_cons
  · exact List.forall_mem_append.mpr ⟨forall_block_start hblocks, forall_line_start hfront⟩
  · exact forall_line_start hback

end

/-- The spans from a place on are in order behind it. -/
theorem spansFrom_inOrder (lang : Language) (text : Array Char) (i state : Nat) :
    Span.InOrder i (lang.spansFrom text i state).spans text.size := by
  fun_induction spansFrom lang text i state with
  | case1 i state hi rule hrule finish hfinish ih =>
    have := BlockRule.findEnd_bounds hfinish
    exact ih.cons (Nat.le_refl i) (by omega) (by omega) this.2 rule.kind
  | case2 i state hi rule hrule hopen =>
    exact Span.inOrder_cons (Nat.le_refl i) hi (Span.inOrder_nil _ _) (Nat.le_refl _)
  | case3 i state hi hrule hnone => exact Span.inOrder_nil _ _
  | case4 i state hi hrule rule start finish hnext ih =>
    have : i ≤ start ∧ start ≤ finish ∧ finish ≤ text.size := nextOpening_bounds hnext
    exact ih.cons this.1 (by omega) (by omega) this.2.2 rule.kind
  | case5 i state hi hrule rule start opened hnext finish hfinish ih =>
    have : i ≤ start ∧ start ≤ opened ∧ opened ≤ text.size := nextOpening_bounds hnext
    have hclose := BlockRule.findEnd_bounds hfinish
    exact ih.cons this.1 (by omega) (by omega) hclose.2 rule.kind
  | case6 i state hi hrule rule start opened hnext hopen =>
    have : i ≤ start ∧ start ≤ opened ∧ opened ≤ text.size := nextOpening_bounds hnext
    have hnil : Span.InOrder text.size (LineSpans.mk [] rule.id).spans text.size :=
      Span.inOrder_nil _ _
    exact hnil.cons this.1 (by omega) (Nat.le_refl _) (Nat.le_refl _) rule.kind
  | case7 => exact Span.inOrder_nil _ _

theorem lineSpans_inOrder (lang : Language) (text : List Char) (state : Nat) :
    Span.InOrder 0 (lang.lineSpans text state).spans text.length := by
  simpa [lineSpans] using lang.spansFrom_inOrder text.toArray 0 state

end Language

end PartitionScan
