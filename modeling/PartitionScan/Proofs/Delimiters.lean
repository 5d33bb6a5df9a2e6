import PartitionScan.Proofs.RRules

/-!
# Closing delimiters

A construct that a character closes ends where a scan for that character, with the same escape,
would stop: escapes counted backward from each candidate and escapes tracked forward from the start
agree. A construct that a longer word closes ends behind the first unescaped occurrence of that word
only if no two occurrences of the word can overlap. After an escaped occurrence the search goes on
behind it, so that an unescaped one that begins inside of it is passed over.
-/
namespace PartitionScan

open Scan

/-- Where a character stands that no escape protects, with escapes tracked from `start` on. -/
def closingPlaces (text : List Char) (escape closing : Char) (start : Nat) : Set Nat :=
  {p | start ≤ p ∧ text[p]? = some closing ∧ inert text escape start p = false}

/-- A scan for an unescaped character stops at the first place where one stands. -/
theorem escaping_scan {ctx : Context} (hctx : ctx.Faithful) (hany : ctx.filter = .any)
    {escape closing : Char} (hne : closing ≠ escape) {start : Nat}
    (hstart : start ≤ ctx.document.length) (cur : Cursor) :
    ∃ found cond cur',
      forwardWith start .unbound (.escaping [closing] escape) ctx cur = .ok ((found, cond), cur') ∧
        Least (closingPlaces ctx.text escape closing start) found := by
  have hmin : min start ctx.document.length = start := Nat.min_eq_left hstart
  have hinv : RecallsAt ctx [closing] escape start (min start ctx.document.length)
      (.escaping [closing] escape) := by
    rw [hmin]
    exact (recalls_escaping _ _ _ _).at (Nat.le_refl start) (inert_origin _ _ _)
  have hleast := ((forward_ends (tracks_unescaped hctx) hctx (Nat.le_refl _)
    (cur.moveTo (min start ctx.document.length : Nat)) (.escaping [closing] escape) start
    (by rw [Cursor.position_moveTo, hmin]) hinv).least hctx (Nat.le_refl _)).1
  have hplaces : {o | start ≤ o ∧ o < ctx.document.length ∧
      ctx.unescaped [closing] escape start o = true} =
      closingPlaces ctx.text escape closing start := by
    ext p
    have haccepts : ctx.accepts p = true := by simp [Context.accepts, hany, Filter.accepts]
    simp only [closingPlaces, Set.mem_ofPred_eq, Context.unescaped, Context.passes, haccepts,
      Bool.true_and, hctx.length_eq]
    cases hc : ctx.text[p]? with
    | none => simp
    | some c =>
      have hlt := (List.getElem?_eq_some_iff.mp hc).1
      by_cases heq : c = closing <;> simp [heq, hne, hlt]
  rw [hplaces] at hleast
  exact ⟨_, _, _, forwardWith_eq hctx rfl (Nat.le_refl _) _ cur, hleast⟩

namespace BlockRule

/-- The end of a construct that a character closes is the byte behind the first such character that
is not inert, and that character is where a scan with the same escape stops. -/
theorem findEnd_agrees_with_escaping_scan {r : BlockRule} {escape closing : Char}
    (hescape : r.escape = some escape) (hclosing : r.closing.IsChar closing)
    (hne : closing ≠ escape) (text : List Char) {start : Nat} (hstart : start ≤ text.length) :
    ∃ close, Least (closingPlaces text escape closing start) close ∧
      (r.findEnd text.toArray start).map (byteOffset text) =
        close.map (fun p => byteOffset text p + closing.utf8Size) ∧
      (text.length ≤ lastPosition → ∀ classifier cur, ∃ cond cur',
        forwardWith start .unbound (.escaping [closing] escape)
          ⟨(Buffer.scratch text).document, classifier, .any⟩ cur = .ok ((close, cond), cur')) := by
  obtain ⟨close, hleast, hend⟩ := findEnd_eq hescape hclosing text.toArray start
  simp only [List.getElem?_toArray] at hleast
  refine ⟨close, hleast, ?_, ?_⟩
  · rw [hend, Option.map_map]
    refine Option.map_congr fun p hp => ?_
    rw [Option.mem_def.mp hp] at hleast
    exact byteOffset_succ hleast.1.2.1
  · intro hlength classifier cur
    have hsize : (Buffer.scratch text).length = text.length := by
      rw [← Buffer.length_text, Buffer.scratch, Buffer.text_ofText]
    have hctx := Context.faithful_document (by rwa [hsize]) classifier .any
    obtain ⟨found, cond, cur', hscan, hfound⟩ := escaping_scan hctx rfl hne (by simpa [hsize]) cur
    rw [Context.text_document, Buffer.scratch, Buffer.text_ofText] at hfound
    rw [hleast.unique hfound]
    exact ⟨cond, cur', hscan⟩

/-- The first quote is escaped and stands behind a character of two bytes. -/
theorem findEnd_agrees_with_escaping_scan_quotes :
    let text := ['é', '\\', '"', '"', 'x']
    let rule := RText.Quote.double.rule
    rule ∈ Language.Builtin.r.blocks ∧
      (rule.findEnd text.toArray 0).map (byteOffset text) = some 5 := by
  intro text rule
  obtain ⟨close, hleast, hend, -⟩ := findEnd_agrees_with_escaping_scan (r := rule) rfl
    RText.Quote.double.isChar_pattern (by decide) text (Nat.zero_le _)
  have hplace : 3 ∈ closingPlaces text '\\' '"' 0 := ⟨by decide, by decide, by decide⟩
  have hfirst : ∀ p < 3, ¬ (text[p]? = some '"' ∧ inert text '\\' 0 p = false) := by decide
  obtain rfl : close = some 3 := hleast.unique
    (least_some hplace fun p hp => Nat.le_of_not_lt fun hlt => hfirst p hlt hp.2)
  refine ⟨?_, hend⟩
  rw [RText.r_blocks]
  exact List.mem_map_of_mem (by decide)

end BlockRule

def Pattern.IsWord (p : Pattern) (word : List Char) : Prop :=
  ∀ text, p.Locates text (fun i => word <+: text.toList.drop i) (· + word.length)

theorem Pattern.isWord_literal {p : Pattern} {first : Char} {rest : List Char}
    (hp : p.program = (Expr.literal first rest).program) : p.IsWord (first :: rest) := by
  intro text
  refine ⟨fun i j => ?_, fun i hi => ?_⟩
  · rw [hp, Expr.accepts_program_iff, Expr.Matches]
  · exact lt_size_of_getElem? (Expr.cons_prefix_drop.mp hi).1

/-- Where a word stands whose first character no escape protects, with escapes tracked from `start`
on. -/
def wordPlaces (text word : List Char) (escape : Char) (start : Nat) : Set Nat :=
  {p | start ≤ p ∧ word <+: text.drop p ∧ inert text escape start p = false}

/-- Whether a word can begin again inside of itself. -/
def Overlaps (word : List Char) : Prop :=
  ∃ d, 0 < d ∧ d < word.length ∧ word.drop d <+: word

/-- Two places of a word that cannot overlap are at least its length apart. -/
theorem apart_of_not_overlaps {text word : List Char} (h : ¬ Overlaps word) {k l : Nat}
    (hk : word <+: text.drop k) (hl : word <+: text.drop l) (hlt : k < l) :
    k + word.length ≤ l := by
  refine Nat.le_of_not_lt fun hinside => h ⟨l - k, by omega, by omega, ?_⟩
  have hdrop : word.drop (l - k) <+: text.drop l := by
    have := hk.drop (l - k)
    rwa [List.drop_drop, Nat.add_sub_of_le (Nat.le_of_lt hlt)] at this
  exact List.prefix_of_prefix_length_le hdrop hl (by simp)

namespace BlockRule

section

variable {r : BlockRule} {escape : Char} {word : List Char}

/-- A word that cannot overlap closes where it first stands unescaped. -/
theorem findEnd_of_not_overlaps (hescape : r.escape = some escape)
    (hclosing : r.closing.IsWord word) (h : ¬ Overlaps word) (text : List Char) (start : Nat) :
    ∃ close, Least (wordPlaces text word escape start) close ∧
      r.findEnd text.toArray start = close.map (· + word.length) := by
  have hne : word ≠ [] := by
    rintro rfl
    exact Nat.lt_irrefl _ ((hclosing #[]).inside 0 List.nil_prefix)
  rw [findEnd, hescape]
  exact findUnescaped_of_apart (hclosing text.toArray)
    (fun k _ => Nat.lt_add_of_pos_right (List.length_pos_iff.mpr hne))
    (fun k l hk hl hlt => apart_of_not_overlaps h hk hl hlt) escape start start

/-- An escape, and two occurrences of a word of which the second begins `d` characters behind the
first. -/
def overlapping (escape : Char) (word : List Char) (d : Nat) : List Char :=
  escape :: (word.take d ++ word)

theorem prefix_drop_overlapping (escape : Char) (word : List Char) {d : Nat} (h : d ≤ word.length) :
    word <+: (overlapping escape word d).drop (1 + d) := by
  rw [overlapping, Nat.add_comm, List.drop_succ_cons, List.drop_left' (List.length_take_of_le h)]

/-- The second occurrence stands unescaped. -/
theorem mem_wordPlaces_overlapping {d : Nat} (hfree : escape ∉ word) (hpos : 0 < d)
    (hlt : d < word.length) : 1 + d ∈ wordPlaces (overlapping escape word d) word escape 0 := by
  refine ⟨Nat.zero_le _, prefix_drop_overlapping escape word (Nat.le_of_lt hlt), ?_⟩
  cases d with
  | zero => exact absurd hpos (Nat.lt_irrefl 0)
  | succ e =>
    have hne : (overlapping escape word (e + 1))[e + 1]? ≠ some escape := by
      intro hc
      rw [overlapping, List.getElem?_cons_succ, List.getElem?_append_left (by simp; omega)] at hc
      exact hfree (List.mem_of_mem_take (List.mem_of_getElem? hc))
    rw [Nat.add_comm 1, inert, beq_eq_false_iff_ne.mpr hne, Bool.and_false, Bool.false_and]

/-- The first one is escaped, and behind it no other is left. -/
theorem findEnd_overlapping {d : Nat} (hescape : r.escape = some escape)
    (hclosing : r.closing.IsWord word) (hfree : escape ∉ word) (hpos : 0 < d)
    (hlt : d < word.length) (hd : word.drop d <+: word) :
    r.findEnd (overlapping escape word d).toArray 0 = none := by
  have hp := hclosing (overlapping escape word d).toArray
  have hlength : (overlapping escape word d).length = 1 + d + word.length := by
    simp [overlapping]
    omega
  have hsecond : word <+: (overlapping escape word d).drop 1 := by
    have := (List.prefix_append_right_inj (word.take d)).mpr hd
    rwa [List.take_append_drop] at this
  have hfirst : ∀ k, 0 ≤ k → word <+: (overlapping escape word d).drop k → 1 ≤ k := by
    rintro k - hk
    refine Nat.pos_of_ne_zero ?_
    rintro rfl
    cases word with
    | nil => simp at hlt
    | cons c rest =>
      obtain ⟨rfl, -⟩ := List.cons_prefix_cons.mp hk
      exact hfree List.mem_cons_self
  have hfound : r.closing.find (overlapping escape word d).toArray 0 = some (1, 1 + word.length) :=
    hp.find_eq_some_iff.mpr ⟨Nat.zero_le _, hsecond, hfirst, rfl⟩
  have hnone : r.closing.find (overlapping escape word d).toArray (1 + word.length) = none := by
    refine hp.find_eq_none_iff.mpr fun k hle hk => ?_
    have := List.IsPrefix.length_le hk
    simp [hlength] at this
    omega
  have hescapes : escapesBefore (overlapping escape word d).toArray escape 0 1 = 1 := by
    simp [escapesBefore, overlapping]
  have hrest : findUnescaped r.closing (overlapping escape word d).toArray escape 0
      (1 + word.length) = none := by
    rw [findUnescaped, hnone, ite_self]
  rw [findEnd, hescape]
  simp only
  rw [findUnescaped, if_pos (by simp [overlapping]), hfound]
  simp only [hescapes]
  rw [if_neg (by decide), Nat.max_eq_left (by omega), hrest]

/-- The end of every construct is that of the first unescaped closing word, exactly if that word
cannot begin again inside of itself. -/
theorem findEnd_first_unescaped_word_iff (hescape : r.escape = some escape)
    (hclosing : r.closing.IsWord word) (hfree : escape ∉ word) :
    (∀ (text : List Char) (start : Nat), ∃ close, Least (wordPlaces text word escape start) close ∧
      r.findEnd text.toArray start = close.map (· + word.length)) ↔ ¬ Overlaps word := by
  constructor
  · rintro hall ⟨d, hpos, hlt, hd⟩
    obtain ⟨close, hleast, hend⟩ := hall (overlapping escape word d) 0
    rw [findEnd_overlapping hescape hclosing hfree hpos hlt hd, eq_comm,
      Option.map_eq_none_iff] at hend
    rw [hend] at hleast
    exact hleast.not_mem _ (mem_wordPlaces_overlapping hfree hpos hlt)
  · exact fun h text start => findEnd_of_not_overlaps hescape hclosing h text start

end

/-- The rule for the strings of TOML between triple quotes in which escapes count. -/
def tomlMultiline : BlockRule :=
  let quotes : Pattern :=
    { source := "\"\"\"", program := (Pattern.Expr.literal '"' ['"', '"']).program }
  { name := "multiline_basic", opening := quotes, closing := quotes, kind := "__toml_string",
    escape := some '\\', id := 1 }

theorem tomlMultiline_mem : tomlMultiline ∈ Language.Builtin.toml.blocks := by
  decide +kernel

/-- Triple quotes can overlap, so that the strings of TOML do not all end where they should. -/
theorem findEnd_first_unescaped_word_iff_toml :
    Overlaps ['"', '"', '"'] ∧ ¬ ∀ (text : List Char) (start : Nat), ∃ close,
      Least (wordPlaces text ['"', '"', '"'] '\\' start) close ∧
        tomlMultiline.findEnd text.toArray start = close.map (· + 3) := by
  have hoverlaps : Overlaps ['"', '"', '"'] := ⟨1, by decide⟩
  have hiff := findEnd_first_unescaped_word_iff (r := tomlMultiline) rfl
    (Pattern.isWord_literal rfl) (by decide)
  exact ⟨hoverlaps, fun hall => hiff.mp hall hoverlaps⟩

/-- Behind an escaped quote, the triple quotes that follow do not close the string. -/
theorem findEnd_escaped_quote_before_toml_delimiter :
    let text := ['\\', '"', '"', '"', '"']
    tomlMultiline ∈ Language.Builtin.toml.blocks ∧ tomlMultiline.closing.IsWord ['"', '"', '"'] ∧
      Least (wordPlaces text ['"', '"', '"'] '\\' 0) (some 2) ∧
        tomlMultiline.findEnd text.toArray 0 = none := by
  intro text
  have hword : tomlMultiline.closing.IsWord ['"', '"', '"'] := Pattern.isWord_literal rfl
  have hplace : 2 ∈ wordPlaces text ['"', '"', '"'] '\\' 0 := ⟨by decide, by decide, by decide⟩
  have hfirst : ∀ p < 2, ¬ (['"', '"', '"'] <+: text.drop p ∧ inert text '\\' 0 p = false) := by
    decide
  refine ⟨tomlMultiline_mem, hword, least_some hplace fun p hp => ?_, ?_⟩
  · exact Nat.le_of_not_lt fun hlt => hfirst p hlt hp.2
  · exact findEnd_overlapping (d := 1) rfl hword (by decide) (by decide) (by decide) (by decide)

end BlockRule

end PartitionScan
