import Mathlib.Data.List.Chain
import PartitionScan.Proofs.Splitting

/-!
# Lines as a decomposition

What one may ask of the lines of a text settles them: the characters are those of the text, every
line but the last ends in one line break, there is no other, and no break is cut in two. A list of
lines with these properties is peeled from the front, and each line of it is the first one of what
is left of the text.
-/
namespace PartitionScan.Line

/-- A CR that ends a line is not followed by an LF, with which it would be one line break. -/
def Apart (l next : Line) : Prop :=
  l.delimiter = ['\r'] → next.chars.head? ≠ some '\n'

/-- What the lines of a text should be. -/
structure IsSplit (text : List Char) (lines : List Line) : Prop where
  nonempty : lines ≠ []
  joined : lines.flatMap chars = text
  ended : ∀ l ∈ lines.dropLast,
    l.delimiter = ['\n'] ∨ l.delimiter = ['\r', '\n'] ∨ l.delimiter = ['\r']
  last : ∀ l ∈ lines.getLast?, l.delimiter = []
  plain : ∀ l ∈ lines, ∀ c ∈ l.content, IsPlain c
  apart : lines.IsChain Apart

/-- A single line has no break at all. -/
theorem isSplit_singleton {text : List Char} {l : Line} :
    IsSplit text [l] ↔ l = ⟨text, []⟩ ∧ ∀ c ∈ text, IsPlain c := by
  constructor
  · rintro ⟨-, rfl, -, hlast, hplain, -⟩
    obtain ⟨content, delimiter⟩ := l
    obtain rfl : delimiter = [] := hlast _ rfl
    have htext : [Line.mk content []].flatMap chars = content := by simp [chars]
    rw [htext]
    exact ⟨rfl, hplain _ (List.mem_singleton_self _)⟩
  · rintro ⟨rfl, hplain⟩
    exact
      { nonempty := List.cons_ne_nil _ _
        joined := by simp [chars]
        ended := by simp
        last := by simp
        plain := by simpa using hplain
        apart := List.isChain_singleton _ }

/-- The first character of some lines is that of the first line, unless that one is empty, which
only the last one can be. -/
theorem IsSplit.head? {text : List Char} {m : Line} {tail : List Line}
    (h : IsSplit text (m :: tail)) : text.head? = m.chars.head? := by
  rw [← h.joined, List.flatMap_cons]
  cases tail with
  | nil => rw [List.flatMap_nil, List.append_nil]
  | cons next tail =>
    have hended : m.Ended := ⟨h.plain m List.mem_cons_self, h.ended m List.mem_cons_self⟩
    have hne : m.chars ≠ [] := by
      intro hnil
      exact hended.delimiter_ne_nil (List.append_eq_nil_iff.mp hnil).2
    obtain ⟨c, rest, hchars⟩ := List.exists_cons_of_ne_nil hne
    rw [hchars]
    rfl

/-- The first of several lines is ended, and its break is whole; the others are the lines of what is
behind it. -/
theorem isSplit_cons {text : List Char} {l : Line} {rest : List Line} (hrest : rest ≠ []) :
    IsSplit text (l :: rest) ↔ l.Ended ∧
      (l.delimiter = ['\r'] → (Buffer.joined rest).head? ≠ some '\n') ∧
      IsSplit (Buffer.joined rest) rest ∧ text = l.chars ++ Buffer.joined rest := by
  obtain ⟨m, tail, rfl⟩ := List.exists_cons_of_ne_nil hrest
  constructor
  · intro h
    have htail : IsSplit (Buffer.joined (m :: tail)) (m :: tail) :=
      { nonempty := List.cons_ne_nil m tail
        joined := rfl
        ended := fun k hk => h.ended k (List.mem_cons_of_mem l hk)
        last := h.last
        plain := fun k hk => h.plain k (List.mem_cons_of_mem l hk)
        apart := (List.isChain_cons_cons.mp h.apart).2 }
    refine ⟨⟨h.plain l List.mem_cons_self, h.ended l List.mem_cons_self⟩, ?_, htail, h.joined.symm⟩
    rw [htail.head?]
    exact (List.isChain_cons_cons.mp h.apart).1
  · rintro ⟨hl, hcr, htail, rfl⟩
    rw [htail.head?] at hcr
    exact
      { nonempty := List.cons_ne_nil l _
        joined := rfl
        ended := fun k hk => by
          rcases List.mem_cons.mp hk with rfl | hk
          · exact hl.delimiter
          · exact htail.ended k hk
        last := htail.last
        plain := fun k hk => by
          rcases List.mem_cons.mp hk with rfl | hk
          · exact hl.content
          · exact htail.plain k hk
        apart := List.isChain_cons_cons.mpr ⟨hcr, htail.apart⟩ }

theorem splitAll_of_plain {text : List Char} (h : ∀ c ∈ text, IsPlain c) :
    splitAll text = [⟨text, []⟩] := by
  induction text with
  | nil => rfl
  | cons c text ih =>
    rw [splitAll_plain (h c List.mem_cons_self), ih fun d hd => h d (List.mem_cons_of_mem c hd)]
    rfl

/-- The lines of a text are what they should be. -/
theorem isSplit_splitAll {text : List Char} {lines : List Line} (h : splitAll text = lines) :
    IsSplit text lines := by
  induction lines generalizing text with
  | nil => exact absurd h (splitAll_ne_nil text)
  | cons l rest ih =>
    have hjoined := flatMap_chars_splitAll text
    rw [h, List.flatMap_cons] at hjoined
    by_cases hrest : rest = []
    · subst hrest
      have hlast : (splitAll text).getLast? = some l := by
        rw [h]
        rfl
      have hdelimiter : l.delimiter = [] := delimiter_of_getLast? hlast
      have htext : l.content = text := by
        rw [← hjoined, chars, hdelimiter, List.append_nil, List.flatMap_nil, List.append_nil]
      refine isSplit_singleton.mpr ⟨by rw [← htext, ← hdelimiter], ?_⟩
      rw [← htext]
      exact isPlain_of_mem_content (h ▸ List.mem_singleton_self l)
    · obtain ⟨hl, hcr, hsplit⟩ := splitAll_eq_cons h hrest
      exact (isSplit_cons hrest).mpr ⟨hl, hcr, ih hsplit, hjoined.symm⟩

/-- Nothing else is what they should be. -/
theorem IsSplit.eq_splitAll {text : List Char} {lines : List Line} (h : IsSplit text lines) :
    lines = splitAll text := by
  induction lines generalizing text with
  | nil => exact absurd rfl h.nonempty
  | cons l rest ih =>
    by_cases hrest : rest = []
    · subst hrest
      obtain ⟨rfl, hplain⟩ := isSplit_singleton.mp h
      exact (splitAll_of_plain hplain).symm
    · obtain ⟨hl, hcr, htail, rfl⟩ := (isSplit_cons hrest).mp h
      rw [splitAll_ended hl hcr, ← ih htail]

/-- A text has one decomposition into lines, and that is the one it is split into. -/
theorem splitAll_is_only_split (text : List Char) :
    IsSplit text (splitAll text) ∧ ∀ lines, IsSplit text lines → lines = splitAll text :=
  ⟨isSplit_splitAll rfl, fun _ h => h.eq_splitAll⟩

end PartitionScan.Line
