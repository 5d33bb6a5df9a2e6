import PartitionScan.Buffer

/-!
# The index of a buffer

The line of an offset is the last one that starts at or before it. A search of the starts gives that
line whether or not the offset is one of them, so that the length, the line of an offset and its
character are those of the flat text.
-/
namespace PartitionScan.Buffer

section

variable {lines : List Line} {line offset : Nat}

@[simp] theorem joined_append (front back : List Line) :
    joined (front ++ back) = joined front ++ joined back := by
  simp [joined]

@[simp] theorem extent_append (front back : List Line) :
    extent (front ++ back) = extent front + extent back := by
  rw [← length_joined, joined_append, List.length_append, length_joined, length_joined]

theorem extent_take_le {i j : Nat} (h : i ≤ j) : extent (lines.take i) ≤ extent (lines.take j) := by
  have hsplit : lines.take j = lines.take i ++ (lines.drop i).take (j - i) := by
    rw [← List.take_add, Nat.add_sub_cancel' h]
  rw [hsplit, extent_append]
  omega

theorem extent_take_le_extent (lines : List Line) (line : Nat) :
    extent (lines.take line) ≤ extent lines := by
  rcases Nat.le_total line lines.length with h | h
  · have hle : extent (lines.take line) ≤ extent (lines.take lines.length) := extent_take_le h
    rwa [List.take_length] at hle
  · exact Nat.le_of_eq (congrArg extent (List.take_of_length_le h))

/-- The index of the line that holds an offset; past the end it is the last line. -/
def lineIndex : List Line → Nat → Nat
  | [], _ => 0
  | [_], _ => 0
  | l :: rest, offset =>
    let length := l.length
    if offset < length then 0 else lineIndex rest (offset - length) + 1

/-- The line of an offset lies among the lines and begins at or before the offset; the next one
begins behind it. -/
theorem lineIndex_bounds (lines : List Line) (offset : Nat) (h : lines ≠ []) :
    lineIndex lines offset < lines.length ∧ extent (lines.take (lineIndex lines offset)) ≤ offset ∧
      (lineIndex lines offset + 1 < lines.length →
        offset < extent (lines.take (lineIndex lines offset + 1))) := by
  fun_induction lineIndex lines offset with
  | case1 => exact absurd rfl h
  | case2 l offset => simp
  | case3 l rest offset hrest length hlt =>
    have hpos : rest ≠ [] := by
      rintro rfl
      exact hrest rfl
    have := List.length_pos_iff.mpr hpos
    simp only [List.length_cons, List.take_zero, List.take_succ_cons, extent_cons]
    exact ⟨by omega, Nat.zero_le _, fun _ => by omega⟩
  | case4 l rest offset hrest length hge ih =>
    have hpos : rest ≠ [] := by
      rintro rfl
      exact hrest rfl
    obtain ⟨hindex, hstart, hnext⟩ := ih hpos
    simp only [List.length_cons, List.take_succ_cons, extent_cons]
    exact ⟨by omega, by omega, fun hlast => by have := hnext (by omega); omega⟩

/-- An offset from the start of a line up to the start of the next one lies on that line. -/
theorem lineIndex_eq (hline : line < lines.length) (hstart : extent (lines.take line) ≤ offset)
    (hnext : line + 1 < lines.length → offset < extent (lines.take (line + 1))) :
    lineIndex lines offset = line := by
  obtain ⟨hindex, hle, hlt⟩ :=
    lineIndex_bounds lines offset (List.ne_nil_of_length_pos (Nat.zero_lt_of_lt hline))
  rcases Nat.lt_trichotomy (lineIndex lines offset) line with hbefore | heq | hbehind
  · have hnear := hlt (by omega)
    have hmono : extent (lines.take (lineIndex lines offset + 1)) ≤ extent (lines.take line) :=
      extent_take_le hbefore
    omega
  · exact heq
  · have hnear := hnext (by omega)
    have hmono : extent (lines.take (line + 1)) ≤ extent (lines.take (lineIndex lines offset)) :=
      extent_take_le hbehind
    omega

/-- A later offset does not lie on an earlier line. -/
theorem lineIndex_mono {offset' : Nat} (h : offset ≤ offset') (hne : lines ≠ []) :
    lineIndex lines offset ≤ lineIndex lines offset' := by
  obtain ⟨hi, hstart, -⟩ := lineIndex_bounds lines offset hne
  obtain ⟨-, -, hnext⟩ := lineIndex_bounds lines offset' hne
  apply Nat.le_of_not_lt
  intro hlt
  have hend := hnext (by omega)
  have hle : extent (lines.take (lineIndex lines offset' + 1)) ≤
      extent (lines.take (lineIndex lines offset)) := extent_take_le (by omega)
  omega

end

section

variable {b : Buffer} {line offset : Nat}

@[simp] theorem length_lineStarts (b : Buffer) : b.lineStarts.length = b.lines.length := by
  simp [b.indexed, startsOf]

theorem getElem?_lineStarts (h : line < b.lines.length) :
    b.lineStarts[line]? = some (extent (b.lines.take line)) := by
  rw [b.indexed, startsOf, List.getElem?_map, List.getElem?_range h, Option.map_some]

theorem getElem?_lineStarts_eq_some {start : Nat} :
    b.lineStarts[line]? = some start ↔
      line < b.lines.length ∧ extent (b.lines.take line) = start := by
  constructor
  · intro h
    have hline : line < b.lines.length := by
      rw [← length_lineStarts]
      exact (List.getElem?_eq_some_iff.mp h).1
    rw [getElem?_lineStarts hline] at h
    exact ⟨hline, Option.some.inj h⟩
  · rintro ⟨hline, rfl⟩
    exact getElem?_lineStarts hline

/-- The last line ends where the text does. -/
theorem length_eq_extent (b : Buffer) : b.length = extent b.lines := by
  rw [length, List.getLast?_eq_getElem?, List.getLast?_eq_getElem?, length_lineStarts]
  rcases List.eq_nil_or_concat b.lines with hnil | ⟨front, l, hlines⟩
  · simp [hnil]
  · have hpos : b.lines.length - 1 < b.lines.length := by simp [hlines]
    rw [getElem?_lineStarts hpos, hlines]
    simp

@[simp] theorem length_text (b : Buffer) : b.text.length = b.length := by
  rw [text, length_joined, length_eq_extent]

theorem extent_take_le_length (b : Buffer) (line : Nat) :
    extent (b.lines.take line) ≤ b.length := by
  rw [length_eq_extent]
  exact extent_take_le_extent b.lines line

/-- The place that a search leads to lies behind values up to the one looked for and before a
greater one. -/
theorem locate_spec (values : List Nat) (x : Nat) : ∃ place,
    (∀ i < place, ∃ v ≤ x, values[i]? = some v) ∧ (∀ v, values[place]? = some v → x < v) ∧
      locate values x =
        if values[place - 1]? = some x then .ok (place - 1) else .error place := by
  have hfront : ∀ v ∈ values.takeWhile (· ≤ x), v ≤ x := by
    intro v hv
    simpa using List.all_eq_true.mp List.all_takeWhile v hv
  have hback : ∀ v, (values.dropWhile (· ≤ x)).head? = some v → x < v := by
    intro v hv
    have hnot := List.head?_dropWhile_not (· ≤ x) values
    rw [hv] at hnot
    simpa using hnot
  have hcut := List.takeWhile_append_dropWhile (p := (· ≤ x)) (l := values)
  rw [locate]
  generalize values.takeWhile (· ≤ x) = front at *
  generalize values.dropWhile (· ≤ x) = back at *
  subst hcut
  refine ⟨front.length, fun i hi => ?_, fun v hv => hback v ?_, rfl⟩
  · refine ⟨front[i], hfront _ (List.getElem_mem hi), ?_⟩
    rw [List.getElem?_append_left hi, List.getElem?_eq_getElem hi]
  · rwa [List.getElem?_append_right (Nat.le_refl _), Nat.sub_self, ← List.head?_eq_getElem?] at hv

/-- Whether a search finds a start or not, it tells the line. -/
theorem lineOfOffset_eq (h : offset ≤ b.length) :
    b.lineOfOffset offset = .ok (lineIndex b.lines offset) := by
  obtain ⟨place, hbefore, hbehind, hlocate⟩ := locate_spec b.lineStarts offset
  have hindex : lineIndex b.lines offset = place - 1 := by
    rcases Nat.eq_zero_or_pos b.lines.length with hnil | hpos
    · have hplace : place = 0 := by
        refine Nat.eq_zero_of_not_pos fun hpos => ?_
        obtain ⟨v, -, hv⟩ := hbefore 0 hpos
        rw [getElem?_lineStarts_eq_some] at hv
        omega
      rw [List.length_eq_zero_iff.mp hnil, hplace]
      rfl
    · have hplace : 0 < place := by
        refine Nat.pos_of_ne_zero fun hzero => ?_
        subst hzero
        exact Nat.not_lt_zero offset (hbehind _ (getElem?_lineStarts hpos))
      obtain ⟨start, hstart, hv⟩ := hbefore (place - 1) (by omega)
      obtain ⟨hline, rfl⟩ := getElem?_lineStarts_eq_some.mp hv
      refine lineIndex_eq hline hstart fun hnext => ?_
      rw [Nat.sub_add_cancel hplace] at hnext ⊢
      exact hbehind _ (getElem?_lineStarts hnext)
  rw [lineOfOffset, hlocate, hindex]
  simp only [if_neg (Nat.not_lt.mpr h)]
  by_cases hfound : b.lineStarts[place - 1]? = some offset
  · rw [if_pos hfound]
  · rw [if_neg hfound]

theorem lineOfOffset_beyond (h : b.length < offset) :
    b.lineOfOffset offset = .error (.badLocation offset b.length) := by
  rw [lineOfOffset]
  exact if_pos h

theorem line_eq (h : line < b.lines.length) : b.line line = .ok b.lines[line] := by
  rw [Buffer.line, line?, List.getElem?_eq_getElem h]

theorem lineOffset_eq (h : line < b.lines.length) :
    b.lineOffset line = .ok (extent (b.lines.take line)) := by
  rw [lineOffset, getElem?_lineStarts h]

theorem lineOffset_ok_iff {start : Nat} :
    b.lineOffset line = .ok start ↔ line < b.lines.length ∧ extent (b.lines.take line) = start := by
  rw [← getElem?_lineStarts_eq_some, lineOffset]
  split <;> simp_all

theorem lineOfOffset_ok_iff :
    b.lineOfOffset offset = .ok line ↔ offset ≤ b.length ∧ lineIndex b.lines offset = line := by
  by_cases hoffset : offset ≤ b.length
  · rw [lineOfOffset_eq hoffset, Except.ok.injEq, and_iff_right hoffset]
  · rw [lineOfOffset_beyond (Nat.lt_of_not_le hoffset)]
    simp [hoffset]

/-- A line ends where the next one begins. -/
theorem exists_lineLength (h : line < b.lines.length) : ∃ length, b.lineLength line = .ok length ∧
    extent (b.lines.take line) + length = extent (b.lines.take (line + 1)) := by
  refine ⟨b.lines[line].length, ?_, ?_⟩
  · rw [lineLength, line_eq h]
    rfl
  · rw [List.take_succ_eq_append_getElem h, extent_append, extent_cons]
    rfl

theorem lineRegion_eq (h : line < b.lines.length) :
    b.lineRegion line = .ok ⟨extent (b.lines.take line), b.lines[line].content.length⟩ := by
  rw [lineRegion, lineOffset_eq h, line_eq h]
  rfl

/-- The text is that of a line between those of the lines before and behind it. -/
theorem text_eq_around (h : line < b.lines.length) :
    b.text = joined (b.lines.take line) ++
      (b.lines[line].chars ++ joined (b.lines.drop (line + 1))) := by
  have hcons : b.lines[line].chars ++ joined (b.lines.drop (line + 1)) =
      joined (b.lines.drop line) := by
    rw [List.drop_eq_getElem_cons h]
    rfl
  rw [hcons, ← joined_append, List.take_append_drop]
  rfl

theorem lines_ne_nil_of_lt (h : offset < b.length) : b.lines ≠ [] := by
  intro hnil
  rw [length_eq_extent, hnil] at h
  exact Nat.not_lt_zero offset h

/-- A character of the text stands on the line of its offset, as far behind the start of the line.
-/
theorem charAt?_lineIndex (h : offset < b.text.length) :
    ∃ l, b.line (lineIndex b.lines offset) = .ok l ∧
      l.charAt? (offset - extent (b.lines.take (lineIndex b.lines offset))) =
        some (b.text[offset]) := by
  have hoffset : offset < b.length := by rwa [length_text] at h
  obtain ⟨hline, hle, hnext⟩ := lineIndex_bounds b.lines offset (lines_ne_nil_of_lt hoffset)
  generalize lineIndex b.lines offset = line at hline hle hnext
  refine ⟨b.lines[line], line_eq hline, ?_⟩
  have hend : offset < extent (b.lines.take (line + 1)) := by
    by_cases hmore : line + 1 < b.lines.length
    · exact hnext hmore
    · rwa [List.take_of_length_le (Nat.le_of_not_lt hmore), ← length_eq_extent]
  rw [List.take_succ_eq_append_getElem hline, extent_append, extent_cons, extent_nil] at hend
  rw [Line.charAt?, ← List.getElem?_eq_getElem h, text_eq_around hline,
    List.getElem?_append_right (by rwa [length_joined]), length_joined,
    List.getElem?_append_left (by rw [Line.length_chars]; omega)]

theorem charAt_eq (h : offset < b.text.length) : b.charAt offset = .ok (b.text[offset]) := by
  have hoffset : offset < b.length := by rwa [length_text] at h
  have hline := (lineIndex_bounds b.lines offset (lines_ne_nil_of_lt hoffset)).1
  obtain ⟨l, hl, hchar⟩ := charAt?_lineIndex h
  rw [charAt]
  simp only [if_neg (Nat.not_le.mpr hoffset), lineOfOffset_eq (Nat.le_of_lt hoffset), hl,
    lineOffset_eq hline, bind, Except.bind, hchar]
  rfl

theorem charAt_beyond (h : b.length ≤ offset) :
    b.charAt offset = .error (.badLocation offset b.length) := by
  rw [charAt]
  exact if_pos h

theorem charAt_ok_iff {c : Char} : b.charAt offset = .ok c ↔ b.text[offset]? = some c := by
  by_cases h : offset < b.text.length
  · rw [charAt_eq h, List.getElem?_eq_getElem h, Except.ok.injEq, Option.some.injEq]
  · rw [charAt_beyond (by rwa [length_text, Nat.not_lt] at h),
      List.getElem?_eq_none (Nat.le_of_not_lt h)]
    simp

/-- Read one after the other, the characters of a range within the text are those of the flat text.
-/
theorem mapM_charAt {length : Nat} (h : offset + length ≤ b.length) :
    (List.range' offset length).mapM b.charAt = .ok ((b.text.drop offset).take length) := by
  induction length generalizing offset with
  | zero => simp [pure, Except.pure]
  | succ length ih =>
    have hlt : offset < b.text.length := by
      rw [length_text]
      omega
    rw [List.range'_succ, List.mapM_cons, charAt_eq hlt, ih (by omega),
      List.drop_eq_getElem_cons hlt]
    rfl

end

end PartitionScan.Buffer
