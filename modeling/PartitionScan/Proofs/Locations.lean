import PartitionScan.Command.Report
import PartitionScan.Proofs.BlankLines

/-!
# Locations can be read back

A location is printed as a line and a display column, and read as a line and a column of characters.
The two columns are the same on a line whose characters are all of width one, up to the end of its
content. Behind that end, in the delimiter, the display column stays where it is, and a column that
is read is taken for the end. Numbers are read as offsets, so that the end of the text must not be
the last offset there is.
-/
namespace PartitionScan

namespace Line

variable {width : Char → Nat}

/-- Characters of width one move the display column by one each. -/
theorem foldlM_advance_of_single {tabWidth start : Nat} {cs : List Char}
    (h : ∀ c ∈ cs, width c = 1 ∧ c ≠ '\t') (hfits : start + cs.length < offsetLimit) :
    cs.foldlM (advance width tabWidth) start = .ok (start + cs.length) := by
  induction cs generalizing start with
  | nil => rfl
  | cons c cs ih =>
    obtain ⟨hwidth, htab⟩ := h c List.mem_cons_self
    rw [List.length_cons] at hfits ⊢
    have hstep : advance width tabWidth start c = .ok (start + 1) := by
      rw [advance, cells, if_neg htab, hwidth, addOffsets, if_pos (by omega)]
    have hlast : start + (cs.length + 1) = start + 1 + cs.length := by omega
    rw [List.foldlM_cons, hstep, hlast]
    exact ih (fun d hd => h d (List.mem_cons_of_mem c hd)) (by omega)

theorem displayColumn_of_single {l : Line} (h : ∀ c ∈ l.content, width c = 1 ∧ c ≠ '\t')
    (hfits : l.content.length < offsetLimit) (tabWidth column : Nat) :
    l.displayColumn width tabWidth column = .ok (min column l.content.length) := by
  have hlength : (l.content.take column).length = min column l.content.length := List.length_take
  rw [displayColumn,
    foldlM_advance_of_single (fun c hc => h c (List.mem_of_mem_take hc)) (by omega),
    hlength, Nat.zero_add]

end Line

/-- An offset of the content of a line, or the end of the content, lies on that line, because the
delimiter of a line before another one is not empty. -/
theorem Buffer.lineIndex_content {b : Buffer} (hb : b.Canonical) {line column : Nat}
    (hline : line < b.lines.length) (h : column ≤ b.lines[line].content.length) :
    lineIndex b.lines (extent (b.lines.take line) + column) = line := by
  refine lineIndex_eq hline (Nat.le_add_right _ _) fun hnext => ?_
  have hdelimiter := List.length_pos_iff.mpr (Line.ended_getElem hb.symm hnext).delimiter_ne_nil
  rw [List.take_succ_eq_append_getElem hline, extent_append, extent_cons, Line.length, extent]
  omega

namespace Command

/-- Whether a text writes a number in decimal digits, a plus sign and leading zeros allowed. -/
structure Writes (cs : List Char) (n : Nat) : Prop where
  nonempty : unsigned cs ≠ []
  digits : ∀ c ∈ unsigned cs, c.isDigit = true
  value : Nat.ofDigitChars 10 (unsigned cs) 0 = n

/-- Offsets are read as numbers. -/
theorem readOffset_eq_some_iff {cs : List Char} {n : Nat} :
    readOffset cs = some n ↔ Writes cs n ∧ n < offsetLimit := by
  have hread : readOffset cs =
      if (unsigned cs).isEmpty || !(unsigned cs).all Char.isDigit ||
        offsetLimit ≤ Nat.ofDigitChars 10 (unsigned cs) 0 then none
      else some (Nat.ofDigitChars 10 (unsigned cs) 0) := by
    have hstep : (fun (n : Nat) (d : Char) => n * 10 + (d.toNat - 48)) =
        fun n d => 10 * n + (d.toNat - '0'.toNat) := by
      funext n d
      rw [Nat.mul_comm]
      rfl
    rw [readOffset, hstep, Nat.ofDigitChars_eq_foldl]
  rw [hread]
  constructor
  · intro h
    split at h
    next => cases h
    next hok =>
      simp only [Bool.or_eq_true, not_or, Bool.not_eq_true, Bool.not_eq_false',
        decide_eq_false_iff_not, List.isEmpty_eq_false_iff, List.all_eq_true] at hok
      obtain ⟨⟨hnonempty, hdigits⟩, hlt⟩ := hok
      exact ⟨⟨hnonempty, hdigits, Option.some.inj h⟩, Option.some.inj h ▸ Nat.lt_of_not_le hlt⟩
  · rintro ⟨⟨hnonempty, hdigits, rfl⟩, hlt⟩
    rw [if_neg]
    simpa [hnonempty, hlt] using hdigits

theorem writes_toString (n : Nat) : Writes (toString n).toList n := by
  have hdigits : ∀ c ∈ Nat.toDigits 10 n, c.isDigit = true := fun c hc =>
    Nat.isDigit_of_mem_toDigits (by decide) (by decide) hc
  have hunsigned : unsigned (Nat.toDigits 10 n) = Nat.toDigits 10 n := by
    rw [unsigned]
    intro rest hrest
    have hplus := hdigits '+' (hrest ▸ List.mem_cons_self)
    exact absurd hplus (by decide)
  rw [Nat.toString_eq_repr, Nat.toList_repr]
  constructor
  · rw [hunsigned]
    exact Nat.toDigits_ne_nil
  · rwa [hunsigned]
  · rw [hunsigned]
    exact Nat.ofDigitChars_ten_toDigits

/-- There is no colon in a number. -/
theorem Writes.colon_not_mem {cs : List Char} {n : Nat} (h : Writes cs n) : ':' ∉ cs := by
  intro hcolon
  have hdigit : ':' ∈ unsigned cs := by
    unfold unsigned
    split <;> simp_all
  exact absurd (h.digits ':' hdigit) (by decide)

namespace Report

open Buffer

variable {r : Report} {line : Nat}

/-- The numbers of lines are offsets. -/
theorem line_lt_offsetLimit (hmade : r.buffer.Made) (hlength : r.buffer.length + 1 < offsetLimit)
    (hline : line < r.buffer.lines.length) : line + 1 < offsetLimit := by
  have hstart : line ≤ extent (r.buffer.lines.take line) := hmade.canonical.line_le_extent hline
  have hcontent := content_within hline
  omega

/-- A line and a column give the start of the line and as much of its content. -/
theorem offset_eq {column : Nat} {cs ds : List Char} (hline : line < r.buffer.lines.length)
    (hcs : readOffset cs = some (line + 1)) (hds : readOffset ds = some (column + 1)) :
    r.offset (String.ofList (cs ++ ':' :: ds)) =
      .ok (extent (r.buffer.lines.take line) + min column r.buffer.lines[line].content.length) := by
  have hcolon : ∀ c ∈ cs, (c != ':') = true := by
    intro c hc
    rw [bne_iff_ne]
    rintro rfl
    exact (readOffset_eq_some_iff.mp hcs).1.colon_not_mem hc
  have htake : (cs ++ ':' :: ds).takeWhile (· != ':') = cs := by
    rw [List.takeWhile_append_of_pos hcolon, List.takeWhile_cons_of_neg (by decide),
      List.append_nil]
  have hdrop : (cs ++ ':' :: ds).dropWhile (· != ':') = ':' :: ds := by
    rw [List.dropWhile_append_of_pos hcolon, List.dropWhile_cons_of_neg (by decide)]
  rw [offset, String.toList_ofList]
  simp only [htake, hdrop, hcs, hds]
  rw [lineRegion_eq hline]
  rfl

/-- A location is the number of the line and the display column, both from 1 on. -/
theorem location_eq {offset shown : Nat} (h : offset ≤ r.buffer.length)
    (hindex : lineIndex r.buffer.lines offset = line) (hline : line < r.buffer.lines.length)
    (hshown : r.buffer.lines[line].displayColumn r.width r.tabWidth
      (offset - extent (r.buffer.lines.take line)) = .ok shown) (hfits : shown + 1 < offsetLimit) :
    r.location offset = .ok (String.ofList
      ((toString (line + 1)).toList ++ ':' :: (toString (shown + 1)).toList)) := by
  have hplace : r.place offset = .ok (line + 1, shown + 1) := by
    simp only [place, lineOfOffset_eq h, hindex, lineOffset_eq hline, line?,
      List.getElem?_eq_getElem hline, hshown, addOffsets, if_pos hfits, bind, Except.bind]
    rfl
  rw [location, hplace, Except.map, Except.ok.injEq, ← String.toList_inj, String.toList_ofList,
    String.toList_append, String.toList_append, List.append_assoc]
  rfl

/-- On a line of characters of width one the location of an offset is printed, and read as the
offset again, or as the end of the content if the offset lies in the delimiter. Whatever line and
column are read, the offset that they give lies on that line, up to the end of its content. -/
theorem locations_read_back (r : Report) (hmade : r.buffer.Made)
    (hlength : r.buffer.length + 1 < offsetLimit) :
    (∀ offset ≤ r.buffer.length, ∃ line start l, r.buffer.lineOfOffset offset = .ok line ∧
      r.buffer.lineOffset line = .ok start ∧ r.buffer.line line = .ok l ∧
      ((∀ c ∈ l.content, r.width c = 1 ∧ c ≠ '\t') → ∃ text, r.location offset = .ok text ∧
        r.offset text =
          .ok (if offset ≤ start + l.content.length then offset else start + l.content.length))) ∧
    ∀ line < r.buffer.lines.length, ∀ column, column + 1 < offsetLimit → ∀ cs ds : List Char,
      Writes cs (line + 1) → Writes ds (column + 1) →
      ∃ offset start l, r.offset (String.ofList (cs ++ ':' :: ds)) = .ok offset ∧
        r.buffer.lineOfOffset offset = .ok line ∧ r.buffer.lineOffset line = .ok start ∧
        r.buffer.line line = .ok l ∧ start ≤ offset ∧ offset ≤ start + l.content.length := by
  have hcanonical := hmade.canonical
  refine ⟨fun offset hoffset => ?_, fun line hline column hcolumn cs ds hcs hds => ?_⟩
  · obtain ⟨hline, hstart, hnext⟩ :=
      lineIndex_bounds r.buffer.lines offset hcanonical.lines_ne_nil
    generalize hindex : lineIndex r.buffer.lines offset = line at hline hstart hnext
    refine ⟨line, _, _, hindex ▸ lineOfOffset_eq hoffset, lineOffset_eq hline, line_eq hline, ?_⟩
    intro hsingle
    have hcontent := content_within hline
    have hshown := Line.displayColumn_of_single hsingle (by omega) r.tabWidth
      (offset - extent (r.buffer.lines.take line))
    have hlocation := location_eq hoffset hindex hline hshown (by omega)
    refine ⟨_, hlocation, ?_⟩
    rw [offset_eq hline
      (readOffset_eq_some_iff.mpr ⟨writes_toString _, line_lt_offsetLimit hmade hlength hline⟩)
      (readOffset_eq_some_iff.mpr ⟨writes_toString _, by omega⟩)]
    congr 1
    split <;> omega
  · have hread := offset_eq hline
      (readOffset_eq_some_iff.mpr ⟨hcs, line_lt_offsetLimit hmade hlength hline⟩)
      (readOffset_eq_some_iff.mpr ⟨hds, hcolumn⟩)
    have hcontent := content_within hline
    refine ⟨_, _, _, hread, ?_, lineOffset_eq hline, line_eq hline, by omega, by omega⟩
    rw [lineOfOffset_eq (by omega), lineIndex_content hcanonical hline (by omega)]

/-- The second line ends at 4, and 5 lies between the two characters of its delimiter. -/
theorem locations_read_back_delimiter :
    let r : Report :=
      { buffer := Buffer.scratch ['a', '\n', 'b', 'c', '\r', '\n', '\t'], tabWidth := 4 }
    r.buffer.Made ∧ r.buffer.length + 1 < offsetLimit ∧
      (∃ text, r.location 5 = .ok text ∧ r.offset text = .ok 4) ∧
      ∃ offset, r.offset "+002:99" = .ok offset ∧ r.buffer.lineOfOffset offset = .ok 1 ∧
        offset ≤ 4 := by
  intro r
  have hmade : r.buffer.Made := .ofText "*scratch*" _
  have hlength : r.buffer.length + 1 < offsetLimit := by decide
  obtain ⟨hback, hread⟩ := locations_read_back r hmade hlength
  refine ⟨hmade, hlength, ?_, ?_⟩
  · obtain ⟨line, start, l, hline, hstart, hl, h⟩ := hback 5 (by decide)
    obtain rfl : 1 = line := Except.ok.inj hline
    obtain rfl : 2 = start := Except.ok.inj hstart
    obtain rfl : ⟨['b', 'c'], ['\r', '\n']⟩ = l := Except.ok.inj hl
    have hb : r.width 'b' = 1 := by decide +kernel
    have hc : r.width 'c' = 1 := by decide +kernel
    exact h (by simp [hb, hc])
  · have hcs : readOffset ['+', '0', '0', '2'] = some 2 := by decide
    have hds : readOffset ['9', '9'] = some 99 := by decide
    obtain ⟨offset, start, l, hoffset, hline, hstart, hl, -, hend⟩ :=
      hread 1 (by decide) 98 (by decide)
      _ _ (readOffset_eq_some_iff.mp hcs).1 (readOffset_eq_some_iff.mp hds).1
    obtain rfl : 2 = start := Except.ok.inj hstart
    obtain rfl : ⟨['b', 'c'], ['\r', '\n']⟩ = l := Except.ok.inj hl
    exact ⟨offset, hoffset, hline, hend⟩

end Report

end Command

end PartitionScan
