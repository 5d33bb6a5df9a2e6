import PartitionScan.Language.LineSpans
import PartitionScan.Loop
import PartitionScan.Pattern.Bounds
import PartitionScan.Text.Bytes

/-!
# The loop over the bytes of a line

The spans of a line are told in bytes and made by a loop that cuts the text at byte offsets. A cut
inside of a character fails, and so does a loop that takes more turns than there are bytes. Whatever
searches for the patterns, as long as its matches lie between characters and not to the left of
where it was asked, every turn goes on behind the one before, so that the loop ends and all that it
cuts is between characters.
-/
namespace PartitionScan

/-- A search for patterns by byte offsets. Asked at a boundary it gives boundaries, in order. -/
structure Engine where
  find : Pattern → List Char → Nat → Option (Nat × Nat)
  bounds : ∀ {p text byte m}, IsBoundary text byte → find p text byte = some m →
    IsBoundary text m.1 ∧ IsBoundary text m.2 ∧ byte ≤ m.1 ∧ m.1 ≤ m.2

def Engine.own : Engine where
  find p text byte :=
    (p.find text.toArray (placeOfByte text byte)).map fun m =>
      (byteOffset text m.1, byteOffset text m.2)
  bounds := by
    rintro p text byte m ⟨i, hi, rfl⟩ hm
    rw [placeOfByte_byteOffset hi] at hm
    obtain ⟨⟨first, last⟩, hfound, rfl⟩ := Option.map_eq_some_iff.mp hm
    have hbounds := Pattern.find_bounds hfound
    exact ⟨isBoundary_byteOffset text first, isBoundary_byteOffset text last,
      byteOffset_mono hbounds.1, byteOffset_mono hbounds.2.1⟩

def pushSpan (spans : List Span) (start finish : Nat) (kind : String) : List Span :=
  if start < finish then spans ++ [⟨start, finish, kind⟩] else spans

/-- Where the loop over a line is: the spans so far, the byte offset it goes on at, and the state.
-/
structure Progress where
  spans : List Span := []
  byte : Nat := 0
  state : Nat

namespace Engine

open PartitionScan.Language (Opening earliest)

variable (e : Engine)

/-- The leftmost match from a byte offset on; nothing is found at the end of the text. -/
def findBeforeEnd (p : Pattern) (text : List Char) (byte : Nat) : Option (Nat × Nat) :=
  if byte < byteLength text then e.find p text byte else none

def endTurn (p : Pattern) (text : List Char) (escape : Char) (start byte : Nat) :
    Option (Nat ⊕ Option Nat) :=
  match e.findBeforeEnd p text byte with
  | none => some (.inr none)
  | some (first, finish) => do
    let before ← slice? text start first
    if (before.reverse.takeWhile (· == escape)).length % 2 = 0 then return .inr (some finish)
    else if byte < finish then return .inl finish
    else return .inl (← nextBoundary? text byte)

def findEnd (r : BlockRule) (text : List Char) (byte : Nat) : Option (Option Nat) :=
  match r.escape with
  | some escape => loop (e.endTurn r.closing text escape byte) (byteLength text + 1) byte
  | none => some ((e.findBeforeEnd r.closing text byte).map (·.2))

def openings (lang : Language) (text : List Char) (byte : Nat) : List Opening :=
  (lang.blocks.filterMap fun r =>
      (e.findBeforeEnd r.opening text byte).map fun m => .block r m.1 m.2) ++
    (lang.lines.filterMap fun r =>
      (e.findBeforeEnd r.pattern text byte).map fun m => .line r m.1 m.2)

def lineTurn (lang : Language) (text : List Char) (s : Progress) : Option (Progress ⊕ LineSpans) :=
  if s.byte < byteLength text then
    match lang.enclosing? s.state with
    | some rule => do
      match ← e.findEnd rule text s.byte with
      | some finish =>
        return .inl ⟨pushSpan s.spans s.byte finish rule.kind,
          max finish (← nextBoundary? text s.byte), 0⟩
      | none => return .inr ⟨pushSpan s.spans s.byte (byteLength text) rule.kind, s.state⟩
    | none =>
      match earliest (e.openings lang text s.byte) with
      | none => some (.inr ⟨s.spans, 0⟩)
      | some (.line rule start finish) => do
        return .inl ⟨pushSpan s.spans start finish rule.kind,
          max finish (← nextBoundary? text start), 0⟩
      | some (.block rule start opened) => do
        match ← e.findEnd rule text opened with
        | some finish =>
          return .inl ⟨pushSpan s.spans start finish rule.kind,
            max finish (← nextBoundary? text start), 0⟩
        | none => return .inr ⟨pushSpan s.spans start (byteLength text) rule.kind, rule.id⟩
  else some (.inr ⟨s.spans, s.state⟩)

def lineSpans (lang : Language) (text : List Char) (state : Nat) : Option LineSpans :=
  loop (e.lineTurn lang text) (byteLength text + 1) { state }

end Engine

structure Span.Sound (lang : Language) (text : List Char) (spans : List Span) (byte : Nat) :
    Prop where
  inOrder : Span.InOrder 0 spans byte
  boundaries : ∀ s ∈ spans, IsBoundary text s.start ∧ IsBoundary text s.finish
  kinds : ∀ s ∈ spans, s.kind ∈ lang.kinds

/-- The spans of a line are sound, and it ends in state 0 or inside of a block. Only a line without
characters keeps the state in which it begins. -/
structure LineSpans.WellFormed (lang : Language) (text : List Char) (state : Nat) (r : LineSpans) :
    Prop where
  sound : Span.Sound lang text r.spans (byteLength text)
  state : r.state = 0 ∨ (∃ b ∈ lang.blocks, b.id = r.state) ∨ text = [] ∧ r.state = state

namespace Span

variable {lang : Language} {text : List Char} {spans : List Span} {byte start finish next : Nat}
  {kind : String}

theorem InOrder.push (h : InOrder 0 spans byte) (hstart : byte ≤ start) (hle : start ≤ next)
    (hfinish : finish ≤ next) : InOrder 0 (pushSpan spans start finish kind) next := by
  rw [pushSpan]
  split
  · next hlt =>
    refine ⟨fun s hs => ?_, List.pairwise_append.mpr ⟨h.apart, List.pairwise_singleton _ _, ?_⟩⟩
    · rcases List.mem_append.mp hs with hs | hs
      · have := h.inside s hs
        omega
      · obtain rfl := List.mem_singleton.mp hs
        exact ⟨Nat.zero_le _, hlt, hfinish⟩
    · intro s hs t ht
      obtain rfl := List.mem_singleton.mp ht
      have := h.inside s hs
      exact Nat.le_trans this.2.2 hstart
  · refine ⟨fun s hs => ?_, h.apart⟩
    have := h.inside s hs
    omega

theorem mem_pushSpan {s : Span} (h : s ∈ pushSpan spans start finish kind) :
    s ∈ spans ∨ s = ⟨start, finish, kind⟩ := by
  rw [pushSpan] at h
  split at h
  · simpa using h
  · exact .inl h

theorem Sound.push (h : Sound lang text spans byte) (hkind : kind ∈ lang.kinds)
    (hstart : IsBoundary text start) (hfinish : IsBoundary text finish) (hbyte : byte ≤ start)
    (hle : start ≤ next) (hnext : finish ≤ next) :
    Sound lang text (pushSpan spans start finish kind) next where
  inOrder := h.inOrder.push hbyte hle hnext
  boundaries s hs := by
    rcases mem_pushSpan hs with hs | rfl
    · exact h.boundaries s hs
    · exact ⟨hstart, hfinish⟩
  kinds s hs := by
    rcases mem_pushSpan hs with hs | rfl
    · exact h.kinds s hs
    · exact hkind

end Span

theorem Language.kind_mem_kinds_of_block {lang : Language} {r : BlockRule} (h : r ∈ lang.blocks) :
    r.kind ∈ lang.kinds :=
  List.mem_eraseDups.mpr (List.mem_append_left _ (List.mem_map_of_mem h))

theorem Language.kind_mem_kinds_of_line {lang : Language} {r : LineRule} (h : r ∈ lang.lines) :
    r.kind ∈ lang.kinds :=
  List.mem_eraseDups.mpr (List.mem_append_right _ (List.mem_map_of_mem h))

theorem Language.enclosing?_eq_some {lang : Language} {state : Nat} {r : BlockRule}
    (h : lang.enclosing? state = some r) : r ∈ lang.blocks ∧ r.id = state := by
  rw [enclosing?] at h
  split at h
  · cases h
  · exact ⟨List.mem_of_find?_eq_some h, by simpa using List.find?_some h⟩

namespace Engine

open PartitionScan.Language (Opening earliest)

variable {e : Engine} {lang : Language} {text : List Char}

theorem findBeforeEnd_bounds {p : Pattern} {byte : Nat} {m : Nat × Nat}
    (hbyte : IsBoundary text byte) (h : e.findBeforeEnd p text byte = some m) :
    byte < byteLength text ∧ IsBoundary text m.1 ∧ IsBoundary text m.2 ∧
      byte ≤ m.1 ∧ m.1 ≤ m.2 := by
  rw [findBeforeEnd] at h
  split at h
  · next hlt => exact ⟨hlt, e.bounds hbyte h⟩
  · cases h

/-- One turn of the search for an end finds it, or gives up, or goes on behind. -/
theorem endTurn_spec (p : Pattern) (escape : Char) {start : Nat} (hstart : IsBoundary text start)
    (byte : Nat) (hbyte : IsBoundary text byte ∧ start ≤ byte) :
    ∃ next, e.endTurn p text escape start byte = some next ∧
      next.elim (fun b => (IsBoundary text b ∧ start ≤ b) ∧
          byteLength text - b < byteLength text - byte)
        (fun close => ∀ finish ∈ close, IsBoundary text finish ∧ start ≤ finish) := by
  rw [endTurn]
  cases hm : e.findBeforeEnd p text byte with
  | none => exact ⟨_, rfl, fun _ h => nomatch h⟩
  | some m =>
    obtain ⟨hlt, hfirst, hlast, hle, hle'⟩ := findBeforeEnd_bounds hbyte.1 hm
    obtain ⟨chars, hchars⟩ := slice?_isSome hstart hfirst (by omega)
    simp only [hchars, Option.bind_eq_bind, Option.bind_some, Option.pure_def]
    split
    · refine ⟨_, rfl, fun finish hfinish => ?_⟩
      obtain rfl := Option.some.inj hfinish
      exact ⟨hlast, by omega⟩
    · split
      · exact ⟨_, rfl, ⟨hlast, by omega⟩, by omega⟩
      · -- An empty match where the turn began: the next character is passed over.
        obtain ⟨next, hnext, hboundary, -, hmoves⟩ := nextBoundary?_spec hbyte.1
        have := hmoves hlt
        simp only [hnext, Option.bind_some]
        exact ⟨_, rfl, ⟨hboundary, by omega⟩, by omega⟩

/-- The search for an end comes to an end. -/
theorem findEnd_spec (r : BlockRule) {byte : Nat} (hbyte : IsBoundary text byte) :
    ∃ close, e.findEnd r text byte = some close ∧
      ∀ finish ∈ close, IsBoundary text finish ∧ byte ≤ finish := by
  rw [findEnd]
  split
  · next escape _ =>
    exact loop_spec (byteLength text - ·) (endTurn_spec r.closing escape hbyte)
      ⟨hbyte, Nat.le_refl _⟩ (Nat.lt_succ_of_le (Nat.sub_le _ _))
  · refine ⟨_, rfl, fun finish hfinish => ?_⟩
    obtain ⟨m, hm, rfl⟩ := Option.map_eq_some_iff.mp hfinish
    have := findBeforeEnd_bounds hbyte hm
    exact ⟨this.2.2.1, by omega⟩

/-- What the earliest opening is: a match of one of the rules. -/
theorem openings_spec {byte : Nat} (hbyte : IsBoundary text byte) {o : Opening}
    (h : earliest (e.openings lang text byte) = some o) :
    IsBoundary text o.start ∧ IsBoundary text o.finish ∧ byte ≤ o.start ∧ o.start ≤ o.finish ∧
      match o with
      | .line rule _ _ => rule ∈ lang.lines
      | .block rule _ _ => rule ∈ lang.blocks := by
  have hmem := Language.earliest_mem h
  simp only [openings, List.mem_append, List.mem_filterMap, Option.map_eq_some_iff] at hmem
  rcases hmem with ⟨r, hr, m, hm, rfl⟩ | ⟨r, hr, m, hm, rfl⟩
  · obtain ⟨-, hstart, hfinish, hle, hle'⟩ := findBeforeEnd_bounds hbyte hm
    exact ⟨hstart, hfinish, hle, hle', hr⟩
  · obtain ⟨-, hstart, hfinish, hle, hle'⟩ := findBeforeEnd_bounds hbyte hm
    exact ⟨hstart, hfinish, hle, hle', hr⟩

end Engine

/-- The loop stands at a boundary behind sound spans, in state 0 unless it has not begun. -/
structure Progress.Sound (lang : Language) (text : List Char) (state : Nat) (s : Progress) :
    Prop where
  boundary : IsBoundary text s.byte
  spans : Span.Sound lang text s.spans s.byte
  state : s.state = 0 ∨ s.byte = 0 ∧ s.state = state

namespace Progress

variable {lang : Language} {text : List Char} {state : Nat} {s : Progress}

/-- A span is added and the loop goes on behind it and behind the character where it began. -/
theorem Sound.advance (h : s.Sound lang text state) {start finish : Nat} {kind : String}
    (hkind : kind ∈ lang.kinds) (hstart : IsBoundary text start) (hfinish : IsBoundary text finish)
    (hbyte : s.byte ≤ start) (hle : start ≤ finish) (hlt : s.byte < byteLength text) :
    ∃ next, nextBoundary? text start = some next ∧
      Sound lang text state ⟨pushSpan s.spans start finish kind, max finish next, 0⟩ ∧
        byteLength text - max finish next < byteLength text - s.byte := by
  obtain ⟨next, hnext, hboundary, hge, hmoves⟩ := nextBoundary?_spec hstart
  have hmax : IsBoundary text (max finish next) := by
    rcases Nat.le_total finish next with h | h
    · rwa [Nat.max_eq_right h]
    · rwa [Nat.max_eq_left h]
  have hpast : s.byte < max finish next := by
    have := hstart.le_byteLength
    by_cases hlast : start < byteLength text
    · have := hmoves hlast
      omega
    · omega
  refine ⟨next, hnext, ⟨hmax, ?_, .inl rfl⟩, by omega⟩
  exact h.spans.push hkind hstart hfinish hbyte (Nat.le_trans hge (Nat.le_max_right _ _))
    (Nat.le_max_left _ _)

/-- A last span is added that takes up the rest of the line. -/
theorem Sound.takeRest (h : s.Sound lang text state) {rule : BlockRule} (hrule : rule ∈ lang.blocks)
    {start : Nat} (hstart : IsBoundary text start) (hbyte : s.byte ≤ start) :
    LineSpans.WellFormed lang text state
      ⟨pushSpan s.spans start (byteLength text) rule.kind, rule.id⟩ where
  sound := h.spans.push (Language.kind_mem_kinds_of_block hrule) hstart
    (isBoundary_byteOffset text _)
    hbyte hstart.le_byteLength (Nat.le_refl _)
  state := .inr (.inl ⟨rule, hrule, rfl⟩)

end Progress

theorem Span.Sound.mono {lang : Language} {text : List Char} {spans : List Span} {byte byte' : Nat}
    (h : Sound lang text spans byte) (hle : byte ≤ byte') : Sound lang text spans byte' where
  inOrder := by
    refine ⟨fun s hs => ?_, h.inOrder.apart⟩
    have := h.inOrder.inside s hs
    omega
  boundaries := h.boundaries
  kinds := h.kinds

namespace Engine

open PartitionScan.Language (Opening earliest)

variable {lang : Language} {text : List Char} {state : Nat}

/-- One turn of the loop ends with well-formed spans, or goes on behind where it began. -/
theorem lineTurn_spec (e : Engine) (s : Progress) (h : s.Sound lang text state) :
    ∃ next, e.lineTurn lang text s = some next ∧
      next.elim (fun s' => s'.Sound lang text state ∧
          byteLength text - s'.byte < byteLength text - s.byte)
        (LineSpans.WellFormed lang text state) := by
  rw [lineTurn]
  split
  · next hlt =>
    cases hrule : lang.enclosing? s.state with
    | some rule =>
      obtain ⟨hmem, hid⟩ := Language.enclosing?_eq_some hrule
      obtain ⟨close, hclose, hbounds⟩ := e.findEnd_spec rule h.boundary
      simp only [hclose, Option.bind_eq_bind, Option.bind_some, Option.pure_def]
      cases close with
      | some finish =>
        obtain ⟨hfinish, hle⟩ := hbounds finish rfl
        obtain ⟨next, hnext, hsound⟩ := h.advance (Language.kind_mem_kinds_of_block hmem) h.boundary
          hfinish (Nat.le_refl _) hle hlt
        simp only [hnext, Option.bind_some]
        exact ⟨_, rfl, hsound⟩
      | none =>
        rw [← hid]
        exact ⟨_, rfl, h.takeRest hmem h.boundary (Nat.le_refl _)⟩
    | none =>
      cases ho : earliest (e.openings lang text s.byte) with
      | none => exact ⟨_, rfl, h.spans.mono h.boundary.le_byteLength, .inl rfl⟩
      | some o =>
        cases o with
        | line rule start finish =>
          obtain ⟨hstart, hfinish, hbyte, hle, hmem⟩ :
            IsBoundary text start ∧ IsBoundary text finish ∧
            s.byte ≤ start ∧ start ≤ finish ∧ rule ∈ lang.lines := openings_spec h.boundary ho
          obtain ⟨next, hnext, hsound⟩ := h.advance (Language.kind_mem_kinds_of_line hmem) hstart
            hfinish hbyte hle hlt
          simp only [hnext, Option.bind_eq_bind, Option.bind_some, Option.pure_def]
          exact ⟨_, rfl, hsound⟩
        | block rule start opened =>
          obtain ⟨hstart, hopened, hbyte, hle, hmem⟩ :
            IsBoundary text start ∧ IsBoundary text opened ∧
            s.byte ≤ start ∧ start ≤ opened ∧ rule ∈ lang.blocks := openings_spec h.boundary ho
          obtain ⟨close, hclose, hbounds⟩ := e.findEnd_spec rule hopened
          simp only [hclose, Option.bind_eq_bind, Option.bind_some, Option.pure_def]
          cases close with
          | some finish =>
            obtain ⟨hfinish, hle'⟩ := hbounds finish rfl
            obtain ⟨next, hnext, hsound⟩ := h.advance (Language.kind_mem_kinds_of_block hmem) hstart
              hfinish hbyte (Nat.le_trans hle hle') hlt
            simp only [hnext, Option.bind_some]
            exact ⟨_, rfl, hsound⟩
          | none => exact ⟨_, rfl, h.takeRest hmem hstart hbyte⟩
  · next hge =>
    -- The loop is at the end, and that is also where it began only if the line holds no character.
    refine ⟨_, rfl, h.spans.mono h.boundary.le_byteLength, ?_⟩
    rcases h.state with hzero | ⟨hbyte, hstate⟩
    · exact .inl hzero
    · have hempty : text = [] := by
        rw [hbyte, ← byteOffset_zero text, byteOffset_lt_byteLength_iff] at hge
        exact List.length_eq_zero_iff.mp (by omega)
      exact .inr (.inr ⟨hempty, hstate⟩)

/-- The loop ends with well-formed spans. -/
theorem lineSpans_spec (e : Engine) (lang : Language) (text : List Char) (state : Nat) :
    ∃ r, e.lineSpans lang text state = some r ∧ r.WellFormed lang text state := by
  refine loop_spec (byteLength text - ·.byte) e.lineTurn_spec ?_
    (Nat.lt_succ_of_le (Nat.sub_le _ _))
  refine ⟨⟨0, Nat.zero_le _, rfl⟩, ⟨Span.inOrder_nil 0 0, ?_, ?_⟩, .inr ⟨rfl, rfl⟩⟩
  · exact fun _ h => nomatch h
  · exact fun _ h => nomatch h

section

variable (e : Engine) (lang : Language) (text : List Char) (state : Nat)

/-- The spans of a line in bytes. The loop that makes them always ends. -/
def spans : LineSpans :=
  (e.lineSpans lang text state).get <| by
    obtain ⟨r, hr, -⟩ := e.lineSpans_spec lang text state
    rw [hr, Option.isSome_some]

theorem lineSpans_eq : e.lineSpans lang text state = some (e.spans lang text state) :=
  (Option.some_get _).symm

theorem wellFormed_spans : (e.spans lang text state).WellFormed lang text state := by
  obtain ⟨r, hr, hformed⟩ := e.lineSpans_spec lang text state
  rw [lineSpans_eq] at hr
  exact Option.some.inj hr ▸ hformed

end

end Engine

end PartitionScan
