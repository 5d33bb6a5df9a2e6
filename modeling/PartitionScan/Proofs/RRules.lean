import Mathlib.Data.Nat.Find
import PartitionScan.Language.Builtin
import PartitionScan.Proofs.Closing

/-!
# What the rules of R find first

From a place of a line on, the rules of R find nothing, a quote or a mark, whichever stands first. A
quote opens the construct of its own rule. A mark makes the rest of the line a comment: the two
comment rules match at the same place, and the tie goes to the one for documentation if that matches
at all.
-/
namespace PartitionScan.RText

open PartitionScan.Language (Builtin.r)

/-- The quotes that open a construct. Each closes its own. -/
inductive Quote where
  | double
  | single
  | backtick
  deriving DecidableEq, Repr

namespace Quote

def char : Quote → Char
  | double => '"'
  | single => '\''
  | backtick => '`'

def kind : Quote → String
  | double => "__r_string"
  | single => "__r_string"
  | backtick => "__r_quoted_symbol"

def ofChar? (c : Char) : Option Quote :=
  if c = '"' then some double
  else if c = '\'' then some single
  else if c = '`' then some backtick
  else none

theorem ofChar?_eq_some_iff {c : Char} {q : Quote} : ofChar? c = some q ↔ c = q.char := by
  constructor
  · intro h
    rw [ofChar?] at h
    split_ifs at h with hdouble hsingle hbacktick <;> obtain rfl := Option.some.inj h <;> assumption
  · rintro rfl
    cases q <;> rfl

theorem ofChar?_char (q : Quote) : ofChar? q.char = some q :=
  ofChar?_eq_some_iff.mpr rfl

theorem char_inj {q q' : Quote} (h : q.char = q'.char) : q = q' := by
  have := (ofChar?_char q).symm.trans (h ▸ ofChar?_char q')
  exact Option.some.inj this

theorem char_ne_hash (q : Quote) : q.char ≠ '#' := by
  cases q <;> decide

end Quote

namespace Quote

def state : Quote → Nat
  | double => 1
  | single => 2
  | backtick => 3

def ofState? : Nat → Option Quote
  | 1 => some double
  | 2 => some single
  | 3 => some backtick
  | _ => none

theorem ofState?_state (q : Quote) : ofState? q.state = some q := by
  cases q <;> rfl

def name : Quote → String
  | double => "string_double"
  | single => "string_single"
  | backtick => "quoted_symbol"

def pattern (q : Quote) : Pattern :=
  { source := String.singleton q.char, program := (Pattern.Expr.literal q.char []).program }

def rule (q : Quote) : BlockRule :=
  { name := q.name, opening := q.pattern, closing := q.pattern, kind := q.kind, escape := some '\\',
    id := q.state }

theorem isChar_pattern (q : Quote) : q.pattern.IsChar q.char :=
  Pattern.isChar_literal rfl

end Quote

def withoutBreak : Text.Ranges :=
  [(0, 9), (11, 0x10FFFF)]

def markRule (name source : String) (first : Char) (rest : List Char) (kind : String)
    (priority : Int) : LineRule :=
  { name, kind,
    pattern := { source, program := (Pattern.Expr.toEnd first rest withoutBreak).program },
    priority }

def roxygen : LineRule := markRule "roxygen" "#'.*$" '#' ['\''] "__r_roxygen" 110

def comment : LineRule := markRule "comment" "#.*$" '#' [] "__r_comment" 100

theorem r_blocks :
    Builtin.r.blocks = [Quote.double, Quote.single, Quote.backtick].map Quote.rule := by
  decide +kernel

theorem r_lines : Builtin.r.lines = [roxygen, comment] := by
  decide +kernel

/-- The rules of other quotes stand before and behind that of a quote. -/
theorem r_blocks_eq_append (q : Quote) : ∃ front back : List Quote,
    Builtin.r.blocks = front.map Quote.rule ++ q.rule :: back.map Quote.rule ∧
      q ∉ front ∧ q ∉ back := by
  cases q with
  | double => exact ⟨[], [.single, .backtick], r_blocks, by decide, by decide⟩
  | single => exact ⟨[.double], [.backtick], r_blocks, by decide, by decide⟩
  | backtick => exact ⟨[.double, .single], [], r_blocks, by decide, by decide⟩

theorem block?_r (state : Nat) :
    Builtin.r.block? state = (Quote.ofState? state).map Quote.rule := by
  rw [Language.block?, r_blocks]
  match state with
  | 0 => rfl
  | 1 => rfl
  | 2 => rfl
  | 3 => rfl
  | n + 4 => simp [Quote.rule, Quote.state, Quote.ofState?]

theorem enclosing?_r (state : Nat) :
    Builtin.r.enclosing? state = (Quote.ofState? state).map Quote.rule := by
  rw [Language.enclosing?, block?_r]
  split
  · next hzero =>
    rw [hzero]
    rfl
  · rfl

theorem kindOfState_r (state : Nat) :
    Builtin.r.kindOfState state = (Quote.ofState? state).map Quote.kind := by
  rw [Language.kindOfState, block?_r, Option.map_map]
  rfl

section

variable {text : Array Char}

/-- The rule of a quote finds the first such quote. -/
theorem findStart_eq_some_iff {q : Quote} {i first last : Nat} :
    q.rule.findStart text i = some (first, last) ↔ i ≤ first ∧ text[first]? = some q.char ∧
      (∀ k, i ≤ k → text[k]? = some q.char → first ≤ k) ∧ last = first + 1 := by
  have hquote := q.isChar_pattern text
  rw [BlockRule.findStart, Quote.rule, hquote.findBeforeEnd_eq, hquote.find_eq_some_iff]

theorem findStart_eq_none_iff {q : Quote} {i : Nat} :
    q.rule.findStart text i = none ↔ ∀ k, i ≤ k → text[k]? ≠ some q.char := by
  have hquote := q.isChar_pattern text
  rw [BlockRule.findStart, Quote.rule, hquote.findBeforeEnd_eq, hquote.find_eq_none_iff]

def Unbroken (text : Array Char) : Prop :=
  ∀ (i : Nat) c, text[i]? = some c → c ≠ '\n'

theorem hasChar_withoutBreak {c : Char} (h : c ≠ '\n') : withoutBreak.hasChar c = true := by
  have hne : c.toNat ≠ 10 := fun hc => h (Char.toNat_inj.mp hc)
  have hle : c.toNat ≤ 0x10FFFF := by
    rcases c.valid with hlow | ⟨-, hhigh⟩
    · exact Nat.le_of_lt (Nat.lt_trans hlow (by decide))
    · exact Nat.le_of_lt_succ hhigh
  simp only [Text.Ranges.hasChar, withoutBreak, Text.Ranges.has_cons, Text.Ranges.has_nil]
  grind

/-- On a line, a mark rule matches where its mark stands. -/
theorem locates_markRule (htext : Unbroken text) (name source : String) (first : Char)
    (rest : List Char) (kind : String) (priority : Int) :
    (markRule name source first rest kind priority).pattern.Locates text
      (fun i => (first :: rest) <+: text.toList.drop i) fun _ => text.size := by
  refine ⟨fun i j => ?_, fun i hi => ?_⟩
  · rw [markRule, Pattern.Expr.accepts_program_iff, Pattern.Expr.matches_toEnd]
    exact fun k c hc => hasChar_withoutBreak (htext k c hc)
  · exact lt_size_of_getElem? (Pattern.Expr.cons_prefix_drop.mp hi).1

/-- What the comment rules look for. -/
theorem locates_roxygen (htext : Unbroken text) : roxygen.pattern.Locates text
    (fun i => text[i]? = some '#' ∧ text[i + 1]? = some '\'') fun _ => text.size := by
  have hmark := locates_markRule htext "roxygen" "#'.*$" '#' ['\''] "__r_roxygen" 110
  simp only [Pattern.Expr.cons_prefix_drop, List.nil_prefix, and_true] at hmark
  exact hmark

theorem locates_comment (htext : Unbroken text) : comment.pattern.Locates text
    (fun i => text[i]? = some '#') fun _ => text.size := by
  have hmark := locates_markRule htext "comment" "#.*$" '#' [] "__r_comment" 100
  simp only [Pattern.Expr.cons_prefix_drop, List.nil_prefix, and_true] at hmark
  exact hmark

theorem find_roxygen_eq_some_iff (htext : Unbroken text) {i first last : Nat} :
    roxygen.find text i = some (first, last) ↔
      i ≤ first ∧ (text[first]? = some '#' ∧ text[first + 1]? = some '\'') ∧
      (∀ k, i ≤ k → text[k]? = some '#' ∧ text[k + 1]? = some '\'' → first ≤ k) ∧
      last = text.size := by
  have hmark := locates_roxygen htext
  rw [LineRule.find, hmark.findBeforeEnd_eq, hmark.find_eq_some_iff]

theorem find_comment_eq_some_iff (htext : Unbroken text) {i first last : Nat} :
    comment.find text i = some (first, last) ↔ i ≤ first ∧ text[first]? = some '#' ∧
      (∀ k, i ≤ k → text[k]? = some '#' → first ≤ k) ∧ last = text.size := by
  have hmark := locates_comment htext
  rw [LineRule.find, hmark.findBeforeEnd_eq, hmark.find_eq_some_iff]

/-- A comment rule that finds something has found a mark. -/
theorem hash_of_find (htext : Unbroken text) {r : LineRule} (hr : r ∈ Builtin.r.lines) {i : Nat}
    {m : Nat × Nat} (h : r.find text i = some m) : i ≤ m.1 ∧ text[m.1]? = some '#' := by
  rw [r_lines, List.mem_cons, List.mem_singleton] at hr
  rcases hr with rfl | rfl
  · obtain ⟨hle, ⟨hc, -⟩, -⟩ := (find_roxygen_eq_some_iff htext).mp h
    exact ⟨hle, hc⟩
  · obtain ⟨hle, hc, -⟩ := (find_comment_eq_some_iff htext).mp h
    exact ⟨hle, hc⟩

/-- A character that opens nothing in code. -/
def IsCode (c : Char) : Prop :=
  c ≠ '#' ∧ Quote.ofChar? c = none

def Quiet (text : Array Char) (start finish : Nat) : Prop :=
  ∀ k c, start ≤ k → k < finish → text[k]? = some c → IsCode c

theorem not_isCode_hash : ¬ IsCode '#' :=
  fun h => h.1 rfl

theorem not_isCode_char (q : Quote) : ¬ IsCode q.char :=
  fun h => nomatch (Quote.ofChar?_char q).symm.trans h.2

theorem Quiet.le {start finish k : Nat} {c : Char} (h : Quiet text start finish) (hk : start ≤ k)
    (hc : text[k]? = some c) (hcode : ¬ IsCode c) : finish ≤ k :=
  Nat.not_lt.mp fun hlt => hcode (h k c hk hlt hc)

/-- The comment rule that wins at a mark: the more particular one, if it matches. -/
def ruleOfMark (text : Array Char) (k : Nat) : LineRule :=
  if text[k + 1]? = some '\'' then roxygen else comment

/-- What opens first from a place on: nothing, a quote or a mark. -/
inductive Opens (text : Array Char) (i : Nat) : Option Language.Opening → Prop
  | nothing (quiet : Quiet text i text.size) : Opens text i none
  | quote {k : Nat} {q : Quote} (le : i ≤ k) (quiet : Quiet text i k)
      (char : text[k]? = some q.char) : Opens text i (some (.block q.rule k (k + 1)))
  | mark {k : Nat} (le : i ≤ k) (quiet : Quiet text i k) (char : text[k]? = some '#') :
      Opens text i (some (.line (ruleOfMark text k) k text.size))

theorem nextOpening_quote (htext : Unbroken text) {i k : Nat} {q : Quote} (hle : i ≤ k)
    (hquiet : Quiet text i k) (hc : text[k]? = some q.char) :
    Builtin.r.nextOpening text i = some (.block q.rule k (k + 1)) := by
  obtain ⟨front, back, hblocks, hfront, hback⟩ := r_blocks_eq_append q
  have hother : ∀ q', q' ≠ q → ∀ m, q'.rule.findStart text i = some m → k < m.1 := by
    intro q' hne m hm
    obtain ⟨hm, hchar, -, -⟩ := findStart_eq_some_iff.mp hm
    refine Nat.lt_of_le_of_ne (hquiet.le hm hchar (not_isCode_char q')) ?_
    intro hk
    rw [← hk, hc, Option.some.injEq] at hchar
    exact hne (Quote.char_inj hchar).symm
  refine Language.nextOpening_eq_block hblocks ?_ ?_ ?_ ?_
  · exact findStart_eq_some_iff.mpr
      ⟨hle, hc, fun l hl hlc => hquiet.le hl hlc (not_isCode_char q), rfl⟩
  · intro r hr
    obtain ⟨q', hq', rfl⟩ := List.mem_map.mp hr
    exact hother q' (ne_of_mem_of_not_mem hq' hfront)
  · intro r hr m hm
    obtain ⟨q', hq', rfl⟩ := List.mem_map.mp hr
    exact Nat.le_of_lt (hother q' (ne_of_mem_of_not_mem hq' hback) m hm)
  · intro r hr m hm
    obtain ⟨hm, hchar⟩ := hash_of_find htext hr hm
    exact hquiet.le hm hchar not_isCode_hash

theorem nextOpening_mark (htext : Unbroken text) {i k : Nat} (hle : i ≤ k)
    (hquiet : Quiet text i k) (hc : text[k]? = some '#') :
    Builtin.r.nextOpening text i = some (.line (ruleOfMark text k) k text.size) := by
  have hblocks : ∀ r ∈ Builtin.r.blocks, ∀ m, r.findStart text i = some m → k < m.1 := by
    intro r hr m hm
    rw [r_blocks] at hr
    obtain ⟨q, -, rfl⟩ := List.mem_map.mp hr
    obtain ⟨hm, hchar, -, -⟩ := findStart_eq_some_iff.mp hm
    refine Nat.lt_of_le_of_ne (hquiet.le hm hchar (not_isCode_char q)) ?_
    intro hk
    rw [← hk, hc, Option.some.injEq] at hchar
    exact q.char_ne_hash hchar.symm
  have hfirst : ∀ r ∈ Builtin.r.lines, ∀ m, r.find text i = some m → k ≤ m.1 := by
    intro r hr m hm
    obtain ⟨hm, hchar⟩ := hash_of_find htext hr hm
    exact hquiet.le hm hchar not_isCode_hash
  rw [ruleOfMark]
  split
  · next hnext =>
    have hlines : Builtin.r.lines = [] ++ roxygen :: [comment] := r_lines
    refine Language.nextOpening_eq_line hlines ?_ hblocks (by simp) ?_
    · exact (find_roxygen_eq_some_iff htext).mpr
        ⟨hle, ⟨hc, hnext⟩, fun l hl hlc => hquiet.le hl hlc.1 not_isCode_hash, rfl⟩
    · exact fun r hr => hfirst r (by rw [r_lines]; exact List.mem_cons_of_mem _ hr)
  · next hnext =>
    have hlines : Builtin.r.lines = [roxygen] ++ comment :: [] := r_lines
    refine Language.nextOpening_eq_line hlines ?_ hblocks ?_ (by simp)
    · exact (find_comment_eq_some_iff htext).mpr
        ⟨hle, hc, fun l hl hlc => hquiet.le hl hlc not_isCode_hash, rfl⟩
    · intro r hr m hm
      obtain rfl := List.mem_singleton.mp hr
      refine Nat.lt_of_le_of_ne (hfirst _ (by rw [r_lines]; exact List.mem_cons_self) m hm) ?_
      rintro rfl
      exact hnext ((find_roxygen_eq_some_iff htext).mp hm).2.1.2

/-- What the rules find first is what opens first. -/
theorem opens_nextOpening (htext : Unbroken text) (i : Nat) :
    Opens text i (Builtin.r.nextOpening text i) := by
  classical
  by_cases hopen : ∃ k, i ≤ k ∧ ∃ c, text[k]? = some c ∧ ¬ IsCode c
  · have hquiet : Quiet text i (Nat.find hopen) := by
      intro k c hk hlt hc
      by_contra hcode
      exact Nat.find_min hopen hlt ⟨hk, c, hc, hcode⟩
    obtain ⟨hle, c, hc, hcode⟩ := Nat.find_spec hopen
    cases hquote : Quote.ofChar? c with
    | some q =>
      obtain rfl := Quote.ofChar?_eq_some_iff.mp hquote
      rw [nextOpening_quote htext hle hquiet hc]
      exact .quote hle hquiet hc
    | none =>
      obtain rfl : c = '#' := Classical.not_not.mp fun hne => hcode ⟨hne, hquote⟩
      rw [nextOpening_mark htext hle hquiet hc]
      exact .mark hle hquiet hc
  · have hnone : Builtin.r.nextOpening text i = none := by
      apply Language.nextOpening_eq_none
      · intro r hr
        rw [r_blocks] at hr
        obtain ⟨q, -, rfl⟩ := List.mem_map.mp hr
        exact findStart_eq_none_iff.mpr fun k hk hc => hopen ⟨k, hk, _, hc, not_isCode_char q⟩
      · intro r hr
        refine Option.eq_none_iff_forall_ne_some.mpr fun m hm => ?_
        obtain ⟨hle, hc⟩ := hash_of_find htext hr hm
        exact hopen ⟨m.1, hle, _, hc, not_isCode_hash⟩
    rw [hnone]
    refine .nothing fun k c hk _ hc => ?_
    by_contra hcode
    exact hopen ⟨k, hk, c, hc, hcode⟩

end

end PartitionScan.RText
