import PartitionScan.Proofs.Blocks

/-!
# Lookups agree with the flat text

The line of an offset is found in the starts of the lines, and a character on its line. Only the
last line of a buffer can be empty, so that the starts are strictly increasing: whatever a search of
ordered values answers for an offset of the text, it names one line, also where the offset is no
start of a line.
-/
namespace PartitionScan.Buffer

/-- What a search of ordered values may answer: a place that holds the value, or else the place at
which it would have to be inserted. -/
def Locates (values : List Nat) (x : Nat) : Except Nat Nat → Prop
  | .ok place => values[place]? = some x
  | .error place => place ≤ values.length ∧
      ∀ i v, values[i]? = some v → (i < place → v < x) ∧ (place ≤ i → x < v)

/-- Whether a line begins at or before an offset and ends behind it, where the last line also has
what is behind its end. -/
def OnLine (b : Buffer) (line offset : Nat) : Prop :=
  ∃ start length, b.lineOffset line = .ok start ∧ b.lineLength line = .ok length ∧ start ≤ offset ∧
    (offset < start + length ∨ line + 1 = b.lines.length)

section

variable {b : Buffer} {line offset : Nat}

theorem lineStarts_increasing (hb : b.Canonical) : b.lineStarts.Pairwise (· < ·) := by
  rw [b.indexed, startsOf, List.pairwise_map]
  refine List.pairwise_lt_range.imp_of_mem fun _ hj hij => ?_
  exact hb.extent_take_lt hij (List.mem_range.mp hj)

theorem head?_lineStarts (hb : b.Canonical) : b.lineStarts.head? = some 0 := by
  have hpos : 0 < b.lines.length := List.length_pos_iff.mpr hb.lines_ne_nil
  rw [List.head?_eq_getElem?, getElem?_lineStarts hpos]
  rfl

/-- The extent of a line is what the text has up to the next line, or up to its end. -/
theorem onLine_iff (hline : line < b.lines.length) :
    b.OnLine line offset ↔ extent (b.lines.take line) ≤ offset ∧
      (line + 1 < b.lines.length → offset < extent (b.lines.take (line + 1))) := by
  obtain ⟨length, hlength, hnext⟩ := exists_lineLength hline
  constructor
  · rintro ⟨start, length', hstart, hlength', hle, hend⟩
    obtain rfl := Except.ok.inj (hlength.symm.trans hlength')
    obtain ⟨-, rfl⟩ := lineOffset_ok_iff.mp hstart
    exact ⟨hle, fun hmore => by omega⟩
  · rintro ⟨hle, hend⟩
    refine ⟨_, length, lineOffset_eq hline, hlength, hle, ?_⟩
    rcases Nat.lt_or_ge (line + 1) b.lines.length with hmore | hlast
    · exact .inl (hnext ▸ hend hmore)
    · exact .inr (by omega)

/-- Each offset is on one line. -/
theorem onLine_iff_eq (hb : b.Canonical) (offset : Nat) :
    b.OnLine line offset ↔ line = lineIndex b.lines offset := by
  constructor
  · intro h
    obtain ⟨_, _, hstart, -⟩ := id h
    obtain ⟨hline, -⟩ := lineOffset_ok_iff.mp hstart
    obtain ⟨hle, hnext⟩ := (onLine_iff hline).mp h
    exact (lineIndex_eq hline hle hnext).symm
  · rintro rfl
    obtain ⟨hline, hle, hnext⟩ := lineIndex_bounds b.lines offset hb.lines_ne_nil
    exact (onLine_iff hline).mpr ⟨hle, hnext⟩

/-- An offset that is no start of a line would be inserted behind the start of its own line, and so
never at the first place. -/
theorem locates_error_iff (hb : b.Canonical) (place : Nat) :
    Locates b.lineStarts offset (.error place) ↔
      place = lineIndex b.lines offset + 1 ∧
        extent (b.lines.take (lineIndex b.lines offset)) ≠ offset := by
  obtain ⟨hline, hle, hnext⟩ := lineIndex_bounds b.lines offset hb.lines_ne_nil
  constructor
  · rintro ⟨hplace, horder⟩
    rw [length_lineStarts] at hplace
    have hstart {i : Nat} (hi : i < b.lines.length) := horder i _ (getElem?_lineStarts hi)
    have hpos : 0 < place := by
      refine Nat.pos_of_ne_zero fun hzero => ?_
      exact Nat.not_lt_zero offset ((hstart (Nat.zero_lt_of_lt hline)).2 (Nat.le_of_eq hzero))
    have hlast := (hstart (i := place - 1) (by omega)).1 (by omega)
    have hindex : lineIndex b.lines offset = place - 1 := by
      refine lineIndex_eq (by omega) (Nat.le_of_lt hlast) fun hmore => ?_
      exact (hstart hmore).2 (by omega)
    rw [hindex]
    exact ⟨by omega, Nat.ne_of_lt hlast⟩
  · rintro ⟨rfl, hne⟩
    refine ⟨by rw [length_lineStarts]; exact hline, fun i v hv => ?_⟩
    obtain ⟨hi, rfl⟩ := getElem?_lineStarts_eq_some.mp hv
    constructor
    · intro hbefore
      exact Nat.lt_of_le_of_lt (extent_take_le (Nat.le_of_lt_succ hbefore))
        (Nat.lt_of_le_of_ne hle hne)
    · intro hbehind
      exact Nat.lt_of_lt_of_le (hnext (by omega)) (extent_take_le hbehind)

theorem locates_ok_iff (hb : b.Canonical) (place : Nat) :
    Locates b.lineStarts offset (.ok place) ↔
      place = lineIndex b.lines offset ∧
        extent (b.lines.take (lineIndex b.lines offset)) = offset := by
  rw [Locates, getElem?_lineStarts_eq_some]
  constructor
  · rintro ⟨hline, rfl⟩
    rw [lineIndex_lineStart hb hline]
    exact ⟨rfl, rfl⟩
  · rintro ⟨rfl, hstart⟩
    exact ⟨(lineIndex_bounds b.lines offset hb.lines_ne_nil).1, hstart⟩

/-- The text of a region is had exactly if the region ends within the text and the offsets. -/
theorem textOf_ok_iff (r : Region) (s : List Char) :
    b.textOf r = .ok s ↔
      (r.finish < offsetLimit ∧ r.finish ≤ b.length) ∧
        s = (b.text.drop r.offset).take r.length := by
  by_cases h : r.finish < offsetLimit ∧ r.finish ≤ b.length
  · rw [textOf_eq h.1 h.2, Except.ok.injEq, eq_comm, and_iff_right h]
  · rw [textOf_eq_error h]
    exact ⟨nofun, fun hs => absurd hs.1 h⟩

end

/-- Whatever the edits on a buffer: its lines start at strictly increasing offsets from 0 on; an
offset of the text is on one line, which is the one that the starts give for it, whether or not the
offset is one of them, and no later offset is on an earlier line; a line starts on itself and
reaches to the next one or the end; and characters, looked up at once or on their line, and regions
are those of the flat text. -/
theorem lookups_agree_with_text (name : String) (initial : List Char) (edits : List Edit) :
    let b := (ofText name initial).performAll edits
    (b.lineStarts.Pairwise (· < ·) ∧ b.lineStarts.head? = some 0 ∧
      ∀ line start, b.lineStarts[line]? = some start ↔ b.lineOffset line = .ok start) ∧
    (∀ offset ≤ b.length, ∃ line, b.lineOfOffset offset = .ok line ∧
      (∀ line', b.OnLine line' offset ↔ line' = line) ∧
      ∀ place, (Locates b.lineStarts offset (.ok place) ↔
          place = line ∧ b.lineOffset line = .ok offset) ∧
        (Locates b.lineStarts offset (.error place) ↔
          place = line + 1 ∧ b.lineOffset line ≠ .ok offset)) ∧
    (∀ offset offset' line line', offset ≤ offset' → b.lineOfOffset offset = .ok line →
      b.lineOfOffset offset' = .ok line' → line ≤ line') ∧
    (∀ line < b.lines.length, ∃ start length, b.lineOffset line = .ok start ∧
      b.lineLength line = .ok length ∧ b.lineOfOffset start = .ok line ∧
      if line + 1 < b.lines.length then b.lineOffset (line + 1) = .ok (start + length)
      else start + length = b.length) ∧
    (∀ offset, (∀ h : offset < b.text.length, b.charAt offset = .ok (b.text[offset]) ∧
        ∃ line start l, b.lineOfOffset offset = .ok line ∧ b.lineOffset line = .ok start ∧
          b.line line = .ok l ∧ l.charAt? (offset - start) = some (b.text[offset])) ∧
      (b.text.length ≤ offset → b.charAt offset = .error (.badLocation offset b.text.length))) ∧
    (∀ r : Region, ((∃ s, b.textOf r = .ok s) ↔ r.finish < offsetLimit ∧ r.finish ≤ b.text.length) ∧
      ∀ s, b.textOf r = .ok s → s = (b.text.drop r.offset).take r.length) := by
  intro b
  have hb : b.Canonical := (performAll_canonical (canonical_ofText name initial) edits).1
  have hne := hb.lines_ne_nil
  have hline (o : Nat) : lineIndex b.lines o < b.lines.length := (lineIndex_bounds b.lines o hne).1
  have hwithin {line : Nat} : extent (b.lines.take line) ≤ b.length :=
    extent_take_le_length b line
  refine ⟨⟨lineStarts_increasing hb, head?_lineStarts hb, fun line start => ?_⟩,
    fun offset hoffset => ?_, fun offset offset' line line' hle hline hline' => ?_,
    fun line h => ?_,
    fun offset => ⟨fun h => ⟨charAt_eq h, ?_⟩, fun h => ?_⟩, fun r => ⟨?_, fun s hs => ?_⟩⟩
  · rw [getElem?_lineStarts_eq_some, lineOffset_ok_iff]
  · refine ⟨_, lineOfOffset_eq hoffset, fun line' => onLine_iff_eq hb offset, fun place => ?_⟩
    rw [lineOffset_eq (hline offset), Ne, Except.ok.injEq]
    exact ⟨locates_ok_iff hb place, locates_error_iff hb place⟩
  · rw [lineOfOffset_ok_iff] at hline hline'
    rw [← hline.2, ← hline'.2]
    exact lineIndex_mono hle hne
  · obtain ⟨length, hlength, hnext⟩ := exists_lineLength h
    refine ⟨_, length, lineOffset_eq h, hlength, ?_, ?_⟩
    · rw [lineOfOffset_eq hwithin, lineIndex_lineStart hb h]
    · split
      next hmore => rw [lineOffset_eq hmore, hnext]
      next hlast =>
        rw [hnext, List.take_of_length_le (Nat.le_of_not_lt hlast), ← length_eq_extent]
  · obtain ⟨l, hl, hchar⟩ := charAt?_lineIndex h
    rw [length_text] at h
    exact ⟨_, _, l, lineOfOffset_eq (Nat.le_of_lt h), lineOffset_eq (hline offset), hl, hchar⟩
  · rw [length_text] at h ⊢
    exact charAt_beyond h
  · simp only [textOf_ok_iff, exists_and_left, exists_eq, and_true, length_text]
  · exact ((textOf_ok_iff r s).mp hs).2

end PartitionScan.Buffer
