import PartitionScan.Proofs.Partitioning
import PartitionScan.Proofs.RRules

/-!
# Reading R character by character

R can be told apart into code, comments and quoted constructs by an automaton that reads one
character after the other and looks at most one ahead. The rules of the language, which search whole
lines for patterns, give every character the kind that the automaton gives it.
-/
namespace PartitionScan.RText

open PartitionScan.Language (Builtin.r)

/-- What a character is read in: code, a comment of a kind, or a quoted construct, in which the
character may be inert. -/
inductive Mode where
  | code
  | comment (kind : String)
  | quoted (quote : Quote) (inert : Bool)
  deriving DecidableEq, Repr

namespace Mode

/-- The kind of a character, given the one behind it on its line, and the mode in which that is
read. -/
def step (c : Char) (next : Option Char) : Mode → String × Mode
  | code =>
    if c = '#' then
      let kind := if next = some '\'' then "__r_roxygen" else "__r_comment"
      (kind, comment kind)
    else
      match Quote.ofChar? c with
      | some q => (q.kind, quoted q false)
      | none => (defaultKind, code)
  | comment kind => (kind, comment kind)
  | quoted q inert =>
    if c = q.char ∧ inert = false then (q.kind, code) else (q.kind, quoted q (c = '\\' && !inert))

/-- The kinds of the characters of a line's content, and the mode that is left at its end. -/
def read : Mode → List Char → List String × Mode
  | mode, [] => ([], mode)
  | mode, c :: rest =>
    let (kind, next) := mode.step c rest.head?
    let (kinds, last) := next.read rest
    (kind :: kinds, last)

def behind (front : List String) (r : List String × Mode) : List String × Mode :=
  (front ++ r.1, r.2)

theorem behind_behind (front back : List String) (r : List String × Mode) :
    behind front (behind back r) = behind (front ++ back) r := by
  rw [behind, behind, behind, List.append_assoc]

theorem read_cons (mode : Mode) (c : Char) (rest : List Char) : mode.read (c :: rest) =
    behind [(mode.step c rest.head?).1] ((mode.step c rest.head?).2.read rest) := rfl

/-- The kind of a delimiter, given the mode at the end of its line. -/
def openKind : Mode → String
  | quoted q _ => q.kind
  | _ => defaultKind

def endLine : Mode → Mode
  | quoted q _ => quoted q false
  | _ => code

end Mode

def kinds : Mode → List Line → List String
  | _, [] => []
  | mode, l :: rest =>
    let (content, last) := mode.read l.content
    content ++ List.replicate l.delimiter.length last.openKind ++ kinds last.endLine rest

section

variable {text : Array Char}

/-- One character is read. -/
theorem read_drop {mode : Mode} {i : Nat} {c : Char} (h : text[i]? = some c) :
    mode.read (text.toList.drop i) = Mode.behind [(mode.step c text[i + 1]?).1]
      ((mode.step c text[i + 1]?).2.read (text.toList.drop (i + 1))) := by
  obtain ⟨hi, rfl⟩ := Array.getElem?_eq_some_iff.mp h
  rw [List.drop_eq_getElem_cons (by simpa using hi), Mode.read_cons, List.head?_drop,
    Array.getElem?_toList, Array.getElem_toList]

theorem read_end (mode : Mode) : mode.read (text.toList.drop text.size) = ([], mode) := by
  rw [List.drop_of_length_le (Nat.le_of_eq Array.length_toList), Mode.read]

/-- A stretch over which the modes follow each other and the kind stays the same. -/
theorem read_stretch (mode : Nat → Mode) (kind : String) {i j : Nat} (hle : i ≤ j)
    (h : ∀ k, i ≤ k → k < j →
      ∃ c, text[k]? = some c ∧ (mode k).step c text[k + 1]? = (kind, mode (k + 1))) :
    (mode i).read (text.toList.drop i) =
      Mode.behind (List.replicate (j - i) kind) ((mode j).read (text.toList.drop j)) := by
  induction hle using Nat.decreasingInduction with
  | self =>
    rw [Nat.sub_self]
    rfl
  | of_succ i hlt ih =>
    obtain ⟨c, hc, hstep⟩ := h i (Nat.le_refl i) hlt
    have hrest := ih fun k hk hkj => h k (by omega) hkj
    rw [read_drop hc, hstep, hrest, Mode.behind_behind, show j - i = j - (i + 1) + 1 by omega]
    rfl

theorem read_code {i k : Nat} (hle : i ≤ k) (hk : k ≤ text.size) (hquiet : Quiet text i k) :
    Mode.code.read (text.toList.drop i) =
      Mode.behind (List.replicate (k - i) defaultKind) (Mode.code.read (text.toList.drop k)) := by
  refine read_stretch (fun _ => .code) defaultKind hle fun l hl hlt => ?_
  have hc : text[l]? = some text[l] := Array.getElem?_eq_getElem (by omega)
  obtain ⟨hhash, hquote⟩ := hquiet l _ hl hlt hc
  exact ⟨_, hc, by rw [Mode.step, if_neg hhash, hquote]⟩

theorem read_comment (kind : String) {i : Nat} (hi : i ≤ text.size) :
    (Mode.comment kind).read (text.toList.drop i) =
      Mode.behind (List.replicate (text.size - i) kind)
        ((Mode.comment kind).read (text.toList.drop text.size)) :=
  read_stretch (fun _ => .comment kind) kind hi fun _ _ hlt =>
    ⟨_, Array.getElem?_eq_getElem hlt, rfl⟩

/-- Up to where the quote closes, the mode says whether a character is inert. -/
theorem read_quoted {q : Quote} {o k : Nat} (hle : o ≤ k) (hk : k ≤ text.size)
    (hopen : ∀ l, o ≤ l → l < k → text[l]? = some q.char →
      inert text.toList '\\' o l = true) :
    (Mode.quoted q false).read (text.toList.drop o) =
      Mode.behind (List.replicate (k - o) q.kind)
        ((Mode.quoted q (inert text.toList '\\' o k)).read (text.toList.drop k)) := by
  have hsteps : ∀ l, o ≤ l → l < k → ∃ c, text[l]? = some c ∧
      (Mode.quoted q (inert text.toList '\\' o l)).step c text[l + 1]? =
        (q.kind, .quoted q (inert text.toList '\\' o (l + 1))) := by
    intro l hl hlt
    have hc : text[l]? = some text[l] := Array.getElem?_eq_getElem (by omega)
    have hstays : ¬ (text[l] = q.char ∧ inert text.toList '\\' o l = false) := by
      rintro ⟨hquote, hfalse⟩
      rw [hopen l hl hlt (by rw [hc, hquote])] at hfalse
      cases hfalse
    refine ⟨_, hc, ?_⟩
    rw [Mode.step, if_neg hstays, inert, Array.getElem?_toList, hc, decide_eq_true hl]
    rfl
  rw [← read_stretch _ q.kind hle hsteps, Scan.inert_origin]

/-- A quoted construct that closes, behind which code is read. -/
theorem read_closed {q : Quote} {o finish : Nat} (hfinish : q.rule.findEnd text o = some finish) :
    o < finish ∧ finish ≤ text.size ∧ (Mode.quoted q false).read (text.toList.drop o) =
      Mode.behind (List.replicate (finish - o) q.kind)
        (Mode.code.read (text.toList.drop finish)) := by
  obtain ⟨close, hleast, hclose⟩ :=
    BlockRule.findEnd_eq (r := q.rule) rfl q.isChar_pattern text o
  obtain ⟨k, rfl, rfl⟩ := Option.map_eq_some_iff.mp (hclose.symm.trans hfinish)
  obtain ⟨⟨hle, hc, hlive⟩, hfirst⟩ := hleast
  have hlt := lt_size_of_getElem? hc
  have hopen : ∀ l, o ≤ l → l < k → text[l]? = some q.char →
      inert text.toList '\\' o l = true := by
    intro l hl hlk hlc
    by_contra hinert
    have := hfirst ⟨hl, hlc, Bool.eq_false_iff.mpr hinert⟩
    omega
  refine ⟨by omega, hlt, ?_⟩
  rw [read_quoted hle (Nat.le_of_lt hlt) hopen, hlive, read_drop hc, Mode.step, if_pos ⟨rfl, rfl⟩,
    Mode.behind_behind, ← List.replicate_succ', show k - o + 1 = k + 1 - o by omega]

/-- A quoted construct that the line leaves open. -/
theorem read_open {q : Quote} {o : Nat} (ho : o ≤ text.size)
    (hnone : q.rule.findEnd text o = none) :
    ∃ last, (Mode.quoted q false).read (text.toList.drop o) =
      Mode.behind (List.replicate (text.size - o) q.kind)
        ((Mode.quoted q last).read (text.toList.drop text.size)) := by
  obtain ⟨close, hleast, hclose⟩ :=
    BlockRule.findEnd_eq (r := q.rule) rfl q.isChar_pattern text o
  obtain rfl := Option.map_eq_none_iff.mp (hclose.symm.trans hnone)
  refine ⟨_, read_quoted ho (Nat.le_refl _) fun l hl hlt hlc => ?_⟩
  by_contra hinert
  exact hleast.not_mem l ⟨hl, hlc, Bool.eq_false_iff.mpr hinert⟩

/-- Code up to a quote, which opens a construct. -/
theorem read_quote {i k : Nat} {q : Quote} (hle : i ≤ k) (hquiet : Quiet text i k)
    (hc : text[k]? = some q.char) :
    Mode.code.read (text.toList.drop i) =
      Mode.behind (List.replicate (k - i) defaultKind ++ [q.kind])
        ((Mode.quoted q false).read (text.toList.drop (k + 1))) := by
  rw [read_code hle (Nat.le_of_lt (lt_size_of_getElem? hc)) hquiet, read_drop hc, Mode.step,
    if_neg q.char_ne_hash, q.ofChar?_char, Mode.behind_behind]

/-- Code up to a mark, which makes the rest of the line a comment. -/
theorem read_mark {i k : Nat} (hle : i ≤ k) (hquiet : Quiet text i k) (hc : text[k]? = some '#') :
    Mode.code.read (text.toList.drop i) =
      Mode.behind (List.replicate (k - i) defaultKind ++
          List.replicate (text.size - k) (ruleOfMark text k).kind)
        ((Mode.comment (ruleOfMark text k).kind).read (text.toList.drop text.size)) := by
  have hlt := lt_size_of_getElem? hc
  have hkind : (if text[k + 1]? = some '\'' then "__r_roxygen" else "__r_comment") =
      (ruleOfMark text k).kind := by
    rw [ruleOfMark]
    split <;> rfl
  have hstep : Mode.code.step '#' text[k + 1]? =
      ((ruleOfMark text k).kind, .comment (ruleOfMark text k).kind) := by
    rw [Mode.step, if_pos rfl, hkind]
  rw [read_code hle (Nat.le_of_lt hlt) hquiet, read_drop hc, hstep, read_comment _ hlt,
    Mode.behind_behind, Mode.behind_behind, List.append_assoc,
    show text.size - k = text.size - (k + 1) + 1 by omega]
  rfl

def Mode.ofState (state : Nat) : Mode :=
  match Quote.ofState? state with
  | some q => .quoted q false
  | none => .code

theorem Mode.ofState_state (q : Quote) : Mode.ofState q.state = .quoted q false := by
  rw [ofState, q.ofState?_state]

theorem Mode.endLine_ofState (state : Nat) : (ofState state).endLine = ofState state := by
  rw [ofState]
  split <;> rfl

/-- A state is inside of a construct exactly if its mode is. -/
theorem ofState_of_enclosing {state : Nat} {rule : BlockRule}
    (h : Builtin.r.enclosing? state = some rule) :
    ∃ q : Quote, rule = q.rule ∧ Mode.ofState state = .quoted q false := by
  rw [enclosing?_r, Option.map_eq_some_iff] at h
  obtain ⟨q, hq, rfl⟩ := h
  exact ⟨q, rfl, by rw [Mode.ofState, hq]⟩

theorem ofState_of_not_enclosing {state : Nat} (h : Builtin.r.enclosing? state = none) :
    Mode.ofState state = .code := by
  rw [enclosing?_r, Option.map_eq_none_iff] at h
  rw [Mode.ofState, h]

/-- Some spans of a line, from a place on, say what is read there in a mode. -/
def Agrees (text : Array Char) (i : Nat) (r : LineSpans) (mode : Mode) : Prop :=
  r.kindsFrom i text.size = (mode.read (text.toList.drop i)).1 ∧
    Mode.ofState r.state = (mode.read (text.toList.drop i)).2.endLine

/-- A span in front of spans that agree with what is read behind it. -/
theorem Agrees.cons {i first finish : Nat} {rest : LineSpans} {kind : String} {mode next : Mode}
    (h : Agrees text finish rest next) (horder : Span.InOrder finish rest.spans text.size)
    (hi : i ≤ first) (hlt : first < finish) (hfinish : finish ≤ text.size)
    (hread : mode.read (text.toList.drop i) =
      Mode.behind (List.replicate (first - i) defaultKind ++ List.replicate (finish - first) kind)
        (next.read (text.toList.drop finish))) :
    Agrees text i (rest.cons first finish kind) mode := by
  rw [Agrees, hread]
  refine ⟨?_, ?_⟩
  · rw [LineSpans.kindsFrom_cons horder hi hlt hfinish, h.1, Mode.behind, List.append_assoc]
  · rw [Mode.behind, ← h.2, LineSpans.cons, if_pos hlt]

/-- At the end of a line there is nothing to read. -/
theorem agrees_end_iff {r : LineSpans} {mode : Mode} :
    Agrees text text.size r mode ↔ Mode.ofState r.state = mode.endLine := by
  rw [Agrees, read_end, LineSpans.kindsFrom, Nat.sub_self]
  exact and_iff_right rfl

/-- The spans of a line say what is read there. -/
theorem spansFrom_agrees (htext : Unbroken text) (i state : Nat) :
    Agrees text i (Builtin.r.spansFrom text i state) (.ofState state) := by
  fun_induction Language.spansFrom Builtin.r text i state with
  | case1 i state hi rule hrule finish hfinish ih =>
    obtain ⟨q, rfl, hmode⟩ := ofState_of_enclosing hrule
    obtain ⟨hlt, hle, hread⟩ := read_closed hfinish
    rw [Nat.max_eq_left hlt] at ih ⊢
    rw [hmode]
    refine ih.cons (Builtin.r.spansFrom_inOrder text finish 0) (Nat.le_refl i) hlt hle ?_
    rw [hread, Nat.sub_self]
    rfl
  | case2 i state hi rule hrule hopen =>
    obtain ⟨q, rfl, hmode⟩ := ofState_of_enclosing hrule
    obtain ⟨last, hread⟩ := read_open (Nat.le_of_lt hi) hopen
    have hend : Agrees text text.size ⟨[], state⟩ (.quoted q last) := agrees_end_iff.mpr hmode
    have hcons : LineSpans.mk [⟨i, text.size, q.rule.kind⟩] state =
        (LineSpans.mk [] state).cons i text.size q.kind := (if_pos hi).symm
    rw [hcons, hmode]
    refine hend.cons (Span.inOrder_nil _ _) (Nat.le_refl i) hi (Nat.le_refl _) ?_
    rw [hread, Nat.sub_self]
    rfl
  | case3 i state hi hrule hnone =>
    rw [ofState_of_not_enclosing hrule]
    have hopens := opens_nextOpening htext i
    rw [hnone] at hopens
    cases hopens with
    | nothing hquiet =>
      rw [Agrees, read_code (Nat.le_of_lt hi) (Nat.le_refl _) hquiet, read_end, Mode.behind,
        List.append_nil]
      exact ⟨LineSpans.kindsFrom_eq_replicate fun k _ _ => rfl, rfl⟩
  | case4 i state hi hrule rule start finish hnext ih =>
    rw [ofState_of_not_enclosing hrule]
    have hopens := opens_nextOpening htext i
    rw [hnext] at hopens
    cases hopens with
    | mark hle hquiet hc =>
      have hlt := lt_size_of_getElem? hc
      rw [Nat.max_eq_left hlt] at ih ⊢
      -- The comment ends with its line, so that it leaves the same state as code.
      have hcode : Mode.ofState (Builtin.r.spansFrom text text.size 0).state = .code :=
        agrees_end_iff.mp ih
      have hend : Agrees text text.size (Builtin.r.spansFrom text text.size 0)
          (.comment (ruleOfMark text start).kind) := agrees_end_iff.mpr hcode
      exact hend.cons (Builtin.r.spansFrom_inOrder text text.size 0) hle hlt (Nat.le_refl _)
        (read_mark hle hquiet hc)
  | case5 i state hi hrule rule start opened hnext finish hfinish ih =>
    rw [ofState_of_not_enclosing hrule]
    have hopens := opens_nextOpening htext i
    rw [hnext] at hopens
    cases hopens with
    | quote hle hquiet hc =>
      obtain ⟨hlt, hfin, hread⟩ := read_closed hfinish
      rw [Nat.max_eq_left (by omega)] at ih ⊢
      refine ih.cons (Builtin.r.spansFrom_inOrder text finish 0) hle (by omega) hfin ?_
      rw [read_quote hle hquiet hc, hread, Mode.behind_behind, List.append_assoc,
        show finish - start = finish - (start + 1) + 1 by omega]
      rfl
  | case6 i state hi hrule rule start opened hnext hopen =>
    rw [ofState_of_not_enclosing hrule]
    have hopens := opens_nextOpening htext i
    rw [hnext] at hopens
    cases hopens with
    | @quote _ q hle hquiet hc =>
      have hlt := lt_size_of_getElem? hc
      obtain ⟨last, hread⟩ := read_open hlt hopen
      have hend : Agrees text text.size ⟨[], q.state⟩ (.quoted q last) :=
        agrees_end_iff.mpr (Mode.ofState_state q)
      refine hend.cons (Span.inOrder_nil _ _) hle hlt (Nat.le_refl _) ?_
      rw [read_quote hle hquiet hc, hread, Mode.behind_behind, List.append_assoc,
        show text.size - start = text.size - (start + 1) + 1 by omega]
      rfl
  | case7 i state hi =>
    have hnil : text.toList.drop i = [] :=
      List.drop_of_length_le (by rw [Array.length_toList]; exact Nat.not_lt.mp hi)
    rw [Agrees, hnil, LineSpans.kindsFrom, Nat.sub_eq_zero_of_le (Nat.not_lt.mp hi)]
    exact ⟨rfl, (Mode.endLine_ofState state).symm⟩

end

/-- The kinds of a line's content, and the mode in which it leaves the next line. -/
theorem lineSpans_reads {content : List Char} (hcontent : ∀ c ∈ content, Line.IsPlain c)
    (state : Nat) :
    (Builtin.r.lineSpans content state).kindsFrom 0 content.length =
        ((Mode.ofState state).read content).1 ∧
      Mode.ofState (Builtin.r.lineSpans content state).state =
        ((Mode.ofState state).read content).2.endLine := by
  have htext : Unbroken content.toArray := by
    intro i c hc
    rw [List.getElem?_toArray] at hc
    exact (hcontent c (List.mem_of_getElem? hc)).1
  simpa [Agrees, Language.lineSpans] using spansFrom_agrees htext 0 state

theorem kindOfState_getD (state : Nat) :
    (Builtin.r.kindOfState state).getD defaultKind = (Mode.ofState state).openKind := by
  rw [kindOfState_r, Mode.ofState]
  cases Quote.ofState? state with
  | none => rfl
  | some q => rfl

theorem Mode.openKind_endLine (mode : Mode) : mode.endLine.openKind = mode.openKind := by
  cases mode <;> rfl

/-- Line by line, the language and the automaton give the same kinds. -/
theorem linesKinds_reads {lines : List Line} (hlines : ∀ l ∈ lines, ∀ c ∈ l.content, Line.IsPlain c)
    (state : Nat) : Engine.own.linesKinds Builtin.r state lines = kinds (.ofState state) lines := by
  induction lines generalizing state with
  | nil => rfl
  | cons l rest ih =>
    obtain ⟨hkinds, hstate⟩ := lineSpans_reads (hlines l List.mem_cons_self) state
    have hrest := ih (fun m hm => hlines m (List.mem_cons_of_mem l hm))
      (Builtin.r.lineSpans l.content state).state
    rw [Engine.linesKinds, Engine.lineKinds, Engine.placeSpans_own, kinds, hrest, hstate, hkinds,
      kindOfState_getD, hstate, Mode.openKind_endLine]

/-- The partitions of every text of R give each character the kind that the automaton reads. -/
theorem partition_follows_automaton (b : Buffer) (hb : b.Made) :
    ∃ m, Builtin.r.partition b.document = .ok m ∧
      (List.range b.length).map (m.classifier.kindAt b.document) =
        (kinds .code b.lines).map .ok := by
  have hlines : ∀ l ∈ b.lines, ∀ c ∈ l.content, Line.IsPlain c := by
    intro l hl
    have hcanonical : b.lines = Line.splitAll b.text := hb.canonical
    rw [hcanonical] at hl
    exact Line.isPlain_of_mem_content hl
  refine ⟨_, Engine.own.partition_document Builtin.r b, ?_⟩
  rw [Engine.own.map_kindAt_partition Builtin.r b, linesKinds_reads hlines]
  rfl

/-- A string with an inert quote, a documentation comment, and a symbol that goes on over a line
break: the escape before the break does not reach the quote behind it, which closes. -/
theorem partition_follows_automaton_lines :
    let b := Buffer.scratch "f(\"a\\\"b\")#' d\n`s\\\n`#x".toList
    b.Made ∧ ∃ m, Builtin.r.partition b.document = .ok m ∧
      (List.range b.length).map (m.classifier.kindAt b.document) =
        (List.replicate 2 defaultKind ++ List.replicate 6 "__r_string" ++ [defaultKind] ++
          List.replicate 4 "__r_roxygen" ++ [defaultKind] ++
          List.replicate 5 "__r_quoted_symbol" ++ List.replicate 2 "__r_comment").map .ok := by
  intro b
  have hmade : b.Made := .ofText "*scratch*" _
  have hkinds : kinds .code b.lines =
      List.replicate 2 defaultKind ++ List.replicate 6 "__r_string" ++ [defaultKind] ++
        List.replicate 4 "__r_roxygen" ++ [defaultKind] ++
        List.replicate 5 "__r_quoted_symbol" ++ List.replicate 2 "__r_comment" := by
    decide +kernel
  obtain ⟨m, hm, hmap⟩ := partition_follows_automaton b hmade
  exact ⟨hmade, m, hm, by rw [hmap, hkinds]⟩

end PartitionScan.RText
