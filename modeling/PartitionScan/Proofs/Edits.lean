import PartitionScan.Proofs.LineIndex
import PartitionScan.Proofs.Splitting

/-!
# Edits are splices

A buffer that holds the lines of its text keeps doing so under every edit, and the text after an
edit is the flat text with the characters spliced in. The lines around an edit are enough to split
again: the seams to the lines before and behind them are clean breaks before the edit and after it.
-/
namespace PartitionScan.Buffer

/-- A buffer whose lines are those of its text, as every buffer made of a text is. -/
def Canonical (b : Buffer) : Prop := b.lines = Line.splitAll b.text

def splice (text : List Char) (offset length : Nat) (new : List Char) : List Char :=
  text.take offset ++ new ++ text.drop (offset + length)

@[simp] theorem joined_splitAll (text : List Char) : joined (Line.splitAll text) = text :=
  Line.flatMap_chars_splitAll text

theorem canonical_ofText (name : String) (text : List Char) : (ofText name text).Canonical := by
  rw [Canonical, text_ofText]
  rfl

theorem Canonical.lines_ne_nil {b : Buffer} (hb : b.Canonical) : b.lines ≠ [] :=
  hb ▸ Line.splitAll_ne_nil b.text

/-- Every line but the last has characters, so that later lines begin later. -/
theorem Canonical.extent_take_lt {b : Buffer} (hb : b.Canonical) {i j : Nat} (hij : i < j)
    (hj : j < b.lines.length) : extent (b.lines.take i) < extent (b.lines.take j) := by
  have hi : i + 1 < b.lines.length := by omega
  have hpos := (Line.ended_getElem hb.symm hi).length_pos
  refine Nat.lt_of_lt_of_le ?_ (extent_take_le hij)
  rw [List.take_succ_eq_append_getElem (by omega), extent_append, extent_cons]
  omega

/-- For the same reason no line has a number above its offset. -/
theorem Canonical.line_le_extent {b : Buffer} (hb : b.Canonical) {line : Nat}
    (h : line < b.lines.length) : line ≤ extent (b.lines.take line) := by
  induction line with
  | zero => exact Nat.zero_le _
  | succ line ih =>
    exact Nat.lt_of_le_of_lt (ih (Nat.lt_of_succ_lt h)) (hb.extent_take_lt line.lt_succ_self h)

theorem splice_append {front middle back new : List Char} {start length : Nat}
    (h : start + length ≤ middle.length) :
    splice (front ++ middle ++ back) (front.length + start) length new =
      front ++ splice middle start length new ++ back := by
  have htake : (front ++ middle ++ back).take (front.length + start) =
      front ++ middle.take start := by
    rw [List.append_assoc, List.take_length_add_append, List.take_append_of_le_length (by omega)]
  have hdrop : (front ++ middle ++ back).drop (front.length + start + length) =
      middle.drop (start + length) ++ back := by
    rw [List.append_assoc, Nat.add_assoc, List.drop_length_add_append,
      List.drop_append_of_le_length h]
  rw [splice, htake, hdrop]
  simp only [splice, List.append_assoc]

/-- What an edit leaves of a text: all lines before the one that it begins on. -/
theorem exists_splice_eq_append {b : Buffer} {line offset length : Nat}
    (hstart : extent (b.lines.take line) ≤ offset) (hlen : offset + length ≤ b.length)
    (new : List Char) :
    ∃ rest, splice b.text offset length new = joined (b.lines.take line) ++ rest := by
  have htext : b.text =
      joined (b.lines.take line) ++ joined (b.lines.drop line) ++ [] := by
    rw [List.append_nil, ← joined_append, List.take_append_drop]
    rfl
  have hlength : (joined (b.lines.take line)).length +
      (joined (b.lines.drop line)).length = b.length := by
    rw [← List.length_append, ← joined_append, List.take_append_drop]
    exact length_text b
  rw [length_joined] at hlength
  obtain ⟨start, rfl⟩ := Nat.exists_eq_add_of_le hstart
  refine ⟨splice (joined (b.lines.drop line)) start length new, ?_⟩
  rw [htext, ← length_joined, splice_append (by omega), List.append_nil]

theorem head?_splice {text : List Char} {start : Nat} (h : 0 < start) (ht : text ≠ [])
    (length : Nat) (new : List Char) : (splice text start length new).head? = text.head? := by
  obtain ⟨c, rest, rfl⟩ := List.exists_cons_of_ne_nil ht
  obtain ⟨n, rfl⟩ := Nat.exists_eq_add_one_of_ne_zero (Nat.pos_iff_ne_zero.mp h)
  rfl

theorem getLast?_splice {text : List Char} {start length : Nat} (h : start + length < text.length)
    (new : List Char) : (splice text start length new).getLast? = text.getLast? := by
  have hdrop : (text.drop (start + length)).getLast? = text.getLast? := by
    rw [List.getLast?_drop, if_neg (by omega)]
  have hsome : text.getLast? ≠ none := by
    intro hnone
    rw [List.getLast?_eq_none_iff.mp hnone] at h
    simp at h
  rw [splice, List.getLast?_append, hdrop]
  cases hlast : text.getLast? with
  | none => exact absurd hlast hsome
  | some c => rfl

/-- Behind the edited lines the seam is clean, so that splitting them alone is enough. -/
theorem splitAll_splice_append {text new : List Char} {chunk after : List Line}
    {start length : Nat} (h : Line.splitAll text = chunk ++ after) (hchunk : chunk ≠ [])
    (hback : after ≠ [] → start + length < extent chunk) :
    Line.splitAll (splice (joined chunk) start length new ++ joined after) =
      resplit chunk start length new ++ after := by
  obtain ⟨front, last, rfl⟩ := (List.eq_nil_or_concat chunk).resolve_left hchunk
  rw [List.concat_eq_append] at *
  have hresplit : resplit (front ++ [last]) start length new =
      if last.delimiter.isEmpty then
        Line.splitAll (splice (joined (front ++ [last])) start length new)
      else (Line.splitAll (splice (joined (front ++ [last])) start length new)).dropLast := by
    rw [resplit, List.getLast?_concat]
    rfl
  rw [hresplit]
  by_cases ha : after = []
  · subst ha
    have hd : last.delimiter = [] := by
      apply Line.delimiter_of_getLast?
      rw [h, List.append_nil, List.getLast?_concat]
    simp [hd, joined]
  · have hd : last.delimiter ≠ [] := by
      rw [List.append_assoc] at h
      exact (Line.ended_of_splitAll h ha).delimiter_ne_nil
    obtain ⟨hseam, -, hafter⟩ := Line.splitAll_eq_append h ha
    have hclean : Line.CleanBreak (splice (joined (front ++ [last])) start length new)
        (joined after) := by
      refine hseam.congr ?_ rfl
      exact getLast?_splice (by rw [length_joined]; exact hback ha) new
    obtain ⟨pieces, hpieces, hsplit, -⟩ := Line.splitAll_append hclean
    rw [hsplit, hafter, hpieces, List.dropLast_concat, if_neg (by simpa using hd)]

/-- Splitting the edited lines again gives the lines of the edited text, as long as the edit keeps
the first character behind the lines before them and the last one before the lines behind them. -/
theorem splitAll_splice {text new : List Char} {before chunk after : List Line} {start length : Nat}
    (h : Line.splitAll text = before ++ (chunk ++ after)) (hchunk : chunk ≠ [])
    (hfront : before ≠ [] → 0 < start) (hback : after ≠ [] → start + length < extent chunk)
    (hlen : start + length ≤ extent chunk) :
    Line.splitAll (splice text (extent before + start) length new) =
      before ++ resplit chunk start length new ++ after := by
  have htext : text = joined before ++ joined chunk ++ joined after := by
    rw [← joined_splitAll text, h, joined_append, joined_append, List.append_assoc]
  obtain ⟨hseam, hbefore, hrest⟩ :=
    Line.splitAll_eq_append h (List.append_ne_nil_of_left_ne_nil hchunk after)
  have hclean : Line.CleanBreak (joined before)
      (splice (joined chunk) start length new ++ joined after) := by
    by_cases hb : before = []
    · subst hb
      exact fun c hc => nomatch hc
    · have hpos : 0 < (joined chunk).length := by
        have := hfront hb
        rw [length_joined]
        omega
      refine hseam.congr rfl ?_
      rw [joined_append, List.head?_append, List.head?_append,
        head?_splice (hfront hb) (List.ne_nil_of_length_pos hpos)]
  obtain ⟨lines, hlines, hsplit, -⟩ := Line.splitAll_append hclean
  have hfirst : lines = before := List.append_cancel_right (hlines.symm.trans hbefore)
  rw [htext, ← length_joined, splice_append (by rwa [length_joined]), List.append_assoc, hsplit,
    hfirst, splitAll_splice_append hrest hchunk hback, List.append_assoc]

/-- The same with the edited lines given by their numbers. -/
theorem splitAll_splice_lines {text new : List Char} {lines : List Line}
    {offset length first last : Nat} (h : Line.splitAll text = lines) (hle : first ≤ last)
    (hlast : last < lines.length) (hstart : extent (lines.take first) ≤ offset)
    (hfront : 0 < first → extent (lines.take first) < offset)
    (hback : last + 1 < lines.length → offset + length < extent (lines.take (last + 1)))
    (hlen : offset + length ≤ extent (lines.take (last + 1))) :
    Line.splitAll (splice text offset length new) = lines.take first ++
      resplit ((lines.drop first).take (last + 1 - first)) (offset - extent (lines.take first))
        length new ++ lines.drop (last + 1) := by
  have htake : lines.take (last + 1) =
      lines.take first ++ (lines.drop first).take (last + 1 - first) := by
    rw [← List.take_add]
    congr 1
    omega
  have hextent := congrArg extent htake
  rw [extent_append] at hextent
  have hcut : lines = lines.take first ++
      ((lines.drop first).take (last + 1 - first) ++ lines.drop (last + 1)) := by
    rw [← List.append_assoc, ← htake, List.take_append_drop]
  have hoffset : offset = extent (lines.take first) + (offset - extent (lines.take first)) := by
    omega
  rw [hoffset, splitAll_splice (h.trans hcut), ← hoffset]
  · apply List.ne_nil_of_length_pos
    simp only [List.length_take, List.length_drop]
    omega
  · intro hne
    have hpos : 0 < first := by
      apply Nat.pos_of_ne_zero
      rintro rfl
      exact hne rfl
    have := hfront hpos
    omega
  · intro hne
    have hlt : last + 1 < lines.length := by
      apply Nat.lt_of_not_le
      intro hge
      exact hne (List.drop_eq_nil_iff.mpr hge)
    have := hback hlt
    omega
  · omega

theorem checkRange_eq {b : Buffer} {offset length : Nat} (hlimit : offset + length < offsetLimit)
    (hlen : offset + length ≤ b.length) : b.checkRange offset length = .ok () :=
  if_pos ⟨hlimit, hlen⟩

theorem checkRange_eq_error {b : Buffer} {offset length : Nat}
    (h : ¬ (offset + length < offsetLimit ∧ offset + length ≤ b.length)) :
    b.checkRange offset length =
      .error (.badLocation (min (offset + length) (offsetLimit - 1)) b.length) :=
  if_neg h

/-- A range within the text is replaced as in the flat text. -/
theorem run_replace {b : Buffer} (hb : b.Canonical) {offset length : Nat}
    (hlimit : offset + length < offsetLimit) (hlen : offset + length ≤ b.length)
    (new : List Char) :
    b.run (replace offset length new) =
      (.ok (), { b.withLines (Line.splitAll (splice b.text offset length new)) with
        modified := true }) := by
  have hne := hb.lines_ne_nil
  obtain ⟨hi, histart, -⟩ := lineIndex_bounds b.lines offset hne
  obtain ⟨hj, hjstart, hjnext⟩ := lineIndex_bounds b.lines (offset + length) hne
  have hij := lineIndex_mono (Nat.le_add_right offset length) hne
  simp only [replace, run_bind, run_get, run_liftM, run_set, run_modify,
    checkRange_eq hlimit hlen, lineOfOffset_eq (Nat.le_trans (Nat.le_add_right _ _) hlen),
    lineOfOffset_eq hlen, lineOffset_eq (Nat.lt_of_le_of_lt (Nat.sub_le _ 1) hi)]
  generalize lineIndex b.lines offset = i at *
  generalize lineIndex b.lines (offset + length) = j at *
  have hle : i - 1 ≤ min (j + 1) (b.lines.length - 1) := by omega
  rw [splitAll_splice_lines hb.symm hle]
  · omega
  · exact Nat.le_trans (extent_take_le (Nat.sub_le i 1)) histart
  · intro hpos
    exact Nat.lt_of_lt_of_le (hb.extent_take_lt (by omega) hi) histart
  · intro hlast
    have hend := hjnext (by omega)
    exact Nat.lt_of_lt_of_le hend (extent_take_le (by omega))
  · by_cases hend : j + 1 < b.lines.length
    · exact Nat.le_of_lt (Nat.lt_of_lt_of_le (hjnext hend) (extent_take_le (by omega)))
    · rwa [List.take_of_length_le (by omega), ← length_eq_extent]

/-- A range that leaves the text or the offsets is refused before anything is changed. -/
theorem run_replace_error {b : Buffer} {offset length : Nat}
    (h : ¬ (offset + length < offsetLimit ∧ offset + length ≤ b.length)) (new : List Char) :
    b.run (replace offset length new) =
      (.error (.badLocation (min (offset + length) (offsetLimit - 1)) b.length), b) := by
  simp only [replace, run_bind, run_get, run_liftM, checkRange_eq_error h]

theorem textOf_eq {b : Buffer} {r : Region} (hlimit : r.finish < offsetLimit)
    (hlen : r.finish ≤ b.length) : b.textOf r = .ok ((b.text.drop r.offset).take r.length) := by
  rw [textOf, checkRange_eq hlimit hlen]
  exact mapM_charAt hlen

theorem textOf_eq_error {b : Buffer} {r : Region}
    (h : ¬ (r.finish < offsetLimit ∧ r.finish ≤ b.length)) :
    b.textOf r = .error (.badLocation (min r.finish (offsetLimit - 1)) b.length) := by
  rw [textOf, checkRange_eq_error h]
  rfl

inductive Edit where
  | insert (offset : Nat) (text : List Char)
  | delete (region : Region)
  | replace (offset length : Nat) (text : List Char)
  deriving DecidableEq, Repr

namespace Edit

/-- The call that makes an edit. A deletion answers with what it takes out. -/
def call : Edit → Editing (Option (List Char))
  | .insert offset text => do
    Buffer.insert offset text
    return none
  | .delete region => do
    return some (← Buffer.delete region)
  | .replace offset length text => do
    Buffer.replace offset length text
    return none

def region : Edit → Region
  | .insert offset _ => ⟨offset, 0⟩
  | .delete region => region
  | .replace offset length _ => ⟨offset, length⟩

def text : Edit → List Char
  | .insert _ text => text
  | .delete _ => []
  | .replace _ _ text => text

def answer (flat : List Char) : Edit → Option (List Char)
  | .delete region => some ((flat.drop region.offset).take region.length)
  | _ => none

/-- Whether an edit stays within a text of a length, and its end within the offsets. -/
def Fits (e : Edit) (length : Nat) : Prop :=
  e.region.finish < offsetLimit ∧ e.region.finish ≤ length
  deriving Decidable

def onText (flat : List Char) (e : Edit) : List Char :=
  if e.Fits flat.length then splice flat e.region.offset e.region.length e.text else flat

end Edit

def perform (b : Buffer) (e : Edit) : Except Fault (Option (List Char)) × Buffer :=
  b.run e.call

def performAll (b : Buffer) (edits : List Edit) : Buffer :=
  edits.foldl (fun b e => (b.perform e).2) b

/-- An edit that fits answers as the flat text does and leaves the lines of the spliced text. -/
theorem perform_of_fits {b : Buffer} (hb : b.Canonical) {e : Edit} (h : e.Fits b.length) :
    b.perform e = (.ok (e.answer b.text),
      { b.withLines (Line.splitAll (e.onText b.text)) with modified := true }) := by
  have hflat : Edit.onText b.text e = splice b.text e.region.offset e.region.length e.text := by
    rw [Edit.onText, length_text, if_pos h]
  have hreplace := run_replace hb h.1 h.2 e.text
  rw [hflat, perform]
  cases e with
  | insert offset text =>
    simp only [Edit.call, insert, run_bind, run_pure]
    rw [show b.run (replace offset 0 text) = _ from hreplace]
    rfl
  | delete region =>
    have htext : b.textOf region = .ok ((b.text.drop region.offset).take region.length) :=
      textOf_eq h.1 h.2
    simp only [Edit.call, delete, run_bind, run_pure, run_get, run_liftM, htext]
    rw [show b.run (replace region.offset region.length []) = _ from hreplace]
    rfl
  | replace offset length text =>
    simp only [Edit.call, run_bind, run_pure]
    rw [show b.run (replace offset length text) = _ from hreplace]
    rfl

/-- An edit that does not fit fails and leaves everything as it is. -/
theorem perform_of_not_fits {b : Buffer} {e : Edit} (h : ¬ e.Fits b.length) :
    b.perform e =
      (.error (.badLocation (min e.region.finish (offsetLimit - 1)) b.length), b) := by
  have hreplace := run_replace_error h e.text
  rw [perform]
  cases e with
  | insert offset text =>
    simp only [Edit.call, insert, run_bind]
    rw [show b.run (replace offset 0 text) = _ from hreplace]
    rfl
  | delete region =>
    have htext : b.textOf region = .error _ := textOf_eq_error h
    simp only [Edit.call, delete, run_bind, run_get, run_liftM, htext]
    rfl
  | replace offset length text =>
    simp only [Edit.call, run_bind]
    rw [show b.run (replace offset length text) = _ from hreplace]
    rfl

/-- One edit keeps the lines those of the text, and the text the flat one. -/
theorem perform_canonical {b : Buffer} (hb : b.Canonical) (e : Edit) :
    (b.perform e).2.Canonical ∧ (b.perform e).2.text = e.onText b.text := by
  by_cases h : e.Fits b.length
  · have htext : (b.perform e).2.text = e.onText b.text := by
      rw [perform_of_fits hb h]
      exact joined_splitAll _
    refine ⟨?_, htext⟩
    rw [Canonical, htext, perform_of_fits hb h]
    rfl
  · rw [perform_of_not_fits h, Edit.onText, length_text, if_neg h]
    exact ⟨hb, rfl⟩

/-- So do any number of edits. -/
theorem performAll_canonical {b : Buffer} (hb : b.Canonical) (edits : List Edit) :
    (b.performAll edits).Canonical ∧
      (b.performAll edits).text = edits.foldl Edit.onText b.text := by
  induction edits generalizing b with
  | nil => exact ⟨hb, rfl⟩
  | cons e edits ih =>
    obtain ⟨hcanonical, htext⟩ := perform_canonical hb e
    obtain ⟨hrest, hflat⟩ := ih hcanonical
    refine ⟨hrest, ?_⟩
    rw [List.foldl_cons, ← htext]
    exact hflat

/-- A buffer that was made of a text or a file and then edited and saved in any order. -/
inductive Made : Buffer → Prop
  | ofText (name : String) (text : List Char) : Made (ofText name text)
  | ofFile {path : String} {contents : Option ByteArray} {b : Buffer}
      (h : ofFile path contents = .ok b) : Made b
  | perform {b : Buffer} (h : Made b) (e : Edit) : Made (b.perform e).2
  | save {b b' : Buffer} {files files' : Files} (h : Made b)
      (hsave : b.save files = .ok (files', b')) : Made b'

/-- The lines of every buffer are those of its text. -/
theorem Made.canonical {b : Buffer} (h : b.Made) : b.Canonical := by
  induction h with
  | ofText name text => exact canonical_ofText name text
  | @ofFile path contents b h =>
    rw [Buffer.ofFile] at h
    cases hread : readText contents with
    | error e =>
      rw [hread] at h
      cases h
    | ok text =>
      rw [hread] at h
      cases h
      exact canonical_ofText ((Path.fileName? path).getD "unnamed") text.toList
  | perform h e ih => exact (perform_canonical ih e).1
  | @save b b' files files' h hsave ih =>
    rw [Buffer.save] at hsave
    cases hpath : b.path with
    | none =>
      rw [hpath] at hsave
      cases hsave
    | some path =>
      rw [hpath] at hsave
      cases hwrite : b.writeTo files path with
      | error e =>
        simp only [hwrite] at hsave
        cases hsave
      | ok written =>
        simp only [hwrite] at hsave
        cases hsave
        exact ih

theorem perform_fails_iff {b : Buffer} (hb : b.Canonical) (e : Edit) :
    (∃ fault, (b.perform e).1 = .error fault) ↔
      offsetLimit ≤ e.region.finish ∨ b.length < e.region.finish := by
  by_cases h : e.Fits b.length
  · rw [perform_of_fits hb h]
    have := h.1
    have := h.2
    constructor
    · rintro ⟨fault, hfault⟩
      cases hfault
    · omega
  · rw [perform_of_not_fits h]
    simp only [Edit.Fits] at h
    exact ⟨fun _ => by omega, fun _ => ⟨_, rfl⟩⟩

/-- Through any edits of a buffer made of a text, the lines and the stored starts are those of the
flat text with the same splices, each start being the number of characters before its line. An edit
fails exactly if its end is no offset or lies behind the text, and then leaves the buffer as it was;
else it marks the buffer as modified, and a deletion gives what it took out. -/
theorem performAll_refines_splices (name : String) (initial : List Char) (edits : List Edit) :
    let b := (ofText name initial).performAll edits
    let flat := edits.foldl Edit.onText initial
    b.text = flat ∧ b.lines = (ofText name flat).lines ∧
      b.lineStarts = (ofText name flat).lineStarts ∧
      (∀ line, b.lineStarts[line]? =
        (b.lines[line]?).map fun _ => (joined (b.lines.take line)).length) ∧
      ∀ e : Edit,
        ((∃ fault, (b.perform e).1 = .error fault) ↔
          offsetLimit ≤ e.region.finish ∨ flat.length < e.region.finish) ∧
        (∀ fault, (b.perform e).1 = .error fault → (b.perform e).2 = b) ∧
        (∀ answer, (b.perform e).1 = .ok answer →
          answer = e.answer flat ∧ (b.perform e).2.modified = true) := by
  intro b flat
  obtain ⟨hb, htext⟩ := performAll_canonical (canonical_ofText name initial) edits
  rw [text_ofText] at htext
  have hlines : b.lines = (ofText name flat).lines := by
    rw [hb, htext]
    rfl
  have hlength : b.length = flat.length := by rw [← length_text, htext]
  refine ⟨htext, hlines, by rw [b.indexed, (ofText name flat).indexed, hlines],
    fun line => ?_, fun e => ⟨?_, ?_, ?_⟩⟩
  · by_cases hline : line < b.lines.length
    · rw [getElem?_lineStarts hline, List.getElem?_eq_getElem hline, length_joined]
      rfl
    · have hnone := Nat.le_of_not_lt hline
      rw [List.getElem?_eq_none hnone, List.getElem?_eq_none (by rwa [length_lineStarts])]
      rfl
  · rw [← hlength]
    exact perform_fails_iff hb e
  · intro fault hfault
    have hfit : ¬ e.Fits b.length := by
      intro hfit
      rw [perform_of_fits hb hfit] at hfault
      cases hfault
    rw [perform_of_not_fits hfit]
  · intro answer hanswer
    have hfit : e.Fits b.length := by
      by_cases hfit : e.Fits b.length
      · exact hfit
      · rw [perform_of_not_fits hfit] at hanswer
        cases hanswer
    rw [perform_of_fits hb hfit, htext] at hanswer ⊢
    exact ⟨(Except.ok.inj hanswer).symm, rfl⟩

end PartitionScan.Buffer
