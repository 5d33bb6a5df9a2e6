import PartitionScan.Pattern.Property.Category
import PartitionScan.Proofs.Lookups
import PartitionScan.Proofs.Runs

/-!
# Blank lines

Whether a line is blank is asked by an offset, and answered by a scan from the start of the content
of its line to the end of that content. The content ends within the text, so that the scan has a
proper bound, and the answer is about the line: the delimiter, or the offset asked for, has no part
in it.
-/
namespace PartitionScan

/-- Blanks are the tab and the characters of the category of space separators. -/
theorem Text.isBlank_iff (c : Char) :
    isBlank c = true ↔ c = '\t' ∨ (Pattern.ofCategories ["zs"]).hasChar c = true := by
  have hranges : Pattern.ofCategories ["zs"] = [(0x20, 0x20), (0xA0, 0xA0), (0x1680, 0x1680),
      (0x2000, 0x200A), (0x202F, 0x202F), (0x205F, 0x205F), (0x3000, 0x3000)] := by
    have htable : Pattern.categoryTable.lookup "zs" =
        some "20 A0 1680 2000-200A 202F 205F 3000" := by
      decide +kernel
    rw [Pattern.ofCategories, List.foldl_cons, htable, List.foldl_nil]
    simp only [Ranges.union, Ranges.merge]
    decide +kernel
  have heq (d : Char) : c = d ↔ c.toNat = d.toNat := Char.toNat_inj.symm
  have hle (d e : Char) : d ≤ e ↔ d.toNat ≤ e.toNat := Iff.rfl
  rw [hranges, Ranges.hasChar]
  simp only [Ranges.has_cons, Ranges.has_nil]
  simp [isBlank, heq, hle]
  omega

namespace Buffer

variable {b : Buffer} {line offset : Nat}

theorem lineRegionOfOffset_eq (h : offset ≤ b.length)
    (hline : lineIndex b.lines offset < b.lines.length) :
    b.document.lineRegionOfOffset offset =
      .ok ⟨extent (b.lines.take (lineIndex b.lines offset)),
        b.lines[lineIndex b.lines offset].content.length⟩ := by
  change (b.lineOfOffset offset).bind b.lineRegion = _
  rw [lineOfOffset_eq h, Except.bind, lineRegion_eq hline]

theorem lineRegionOfOffset_beyond (h : b.length < offset) :
    b.document.lineRegionOfOffset offset = .error (.badLocation offset b.length) := by
  change (b.lineOfOffset offset).bind b.lineRegion = _
  rw [lineOfOffset_beyond h, Except.bind]

/-- The content of a line ends within the text. -/
theorem content_within (hline : line < b.lines.length) :
    extent (b.lines.take line) + b.lines[line].content.length ≤ b.length := by
  have hwithin : extent (b.lines.take (line + 1)) ≤ b.length :=
    extent_take_le_length b (line + 1)
  rw [List.take_succ_eq_append_getElem hline, extent_append, extent_cons, Line.length] at hwithin
  omega

/-- The content of a line is in the text from the start of the line on. -/
theorem getElem?_text_content (hline : line < b.lines.length) {column : Nat}
    (h : column < b.lines[line].content.length) :
    b.text[extent (b.lines.take line) + column]? = b.lines[line].content[column]? := by
  rw [text_eq_around hline, ← length_joined, List.getElem?_append_right (Nat.le_add_right _ _),
    Nat.add_sub_cancel_left, Line.chars, List.append_assoc, List.getElem?_append_left h]

end Buffer

namespace Scan

open Buffer

variable {b : Buffer} {line : Nat}

/-- No character stops a scan of the content exactly if all are blank. -/
theorem content_quiet_iff (hline : line < b.lines.length) :
    (∀ o, extent (b.lines.take line) ≤ o →
        o < extent (b.lines.take line) + b.lines[line].content.length →
        stopsAt b.text (Condition.isNonBlank false) o = false) ↔
      b.lines[line].content.all Text.isBlank = true := by
  have hstops {column : Nat} (h : column < b.lines[line].content.length) :
      stopsAt b.text (Condition.isNonBlank false) (extent (b.lines.take line) + column) =
        !Text.isBlank (b.lines[line].content[column]) := by
    rw [stopsAt, getElem?_text_content hline h, List.getElem?_eq_getElem h]
    simp [Condition.isNonBlank]
  rw [List.all_eq_true]
  constructor
  · intro hquiet c hc
    obtain ⟨column, h, rfl⟩ := List.mem_iff_getElem.mp hc
    have hdead := hquiet _ (Nat.le_add_right _ column) (Nat.add_lt_add_left h _)
    simpa [hstops h] using hdead
  · intro hblank o hle hlt
    obtain ⟨column, rfl⟩ := Nat.exists_eq_add_of_le hle
    have h : column < b.lines[line].content.length := by omega
    rw [hstops h, hblank _ (List.getElem_mem h)]
    rfl

/-- A forward scan finds nothing exactly if nothing is live in its range. -/
theorem EndsForward.isNone_found?_iff {ctx : Context} {live : Nat → Bool}
    {inv : Nat → Condition → Prop} {start limit : Nat} {out : Outcome}
    (h : EndsForward ctx live inv start limit out) (hctx : ctx.Faithful)
    (hlimit : limit ≤ ctx.document.length) :
    out.found?.isNone = true ↔ ∀ o, start ≤ o → o < limit → live o = false := by
  cases h with
  | found o hstopped hposition _ hstart hlt hlive _ _ =>
    rw [hctx.found?_eq hstopped hposition (by omega), Option.isNone_some]
    refine ⟨nofun, fun hquiet => ?_⟩
    rw [hquiet o hstart hlt] at hlive
    exact hlive
  | exhausted hstopped _ hnone _ =>
    rw [Outcome.found?_eq_none hstopped, Option.isNone_none]
    exact ⟨fun _ => hnone, fun _ => rfl⟩

/-- A scan of the content of a line finds nothing exactly if all of it is blank. -/
theorem nonBlankForward_content (hb : b.length ≤ lastPosition) (hline : line < b.lines.length)
    (classifier : Classifier) (filter : Filter) (cur : Cursor) :
    let r : Region := ⟨extent (b.lines.take line), b.lines[line].content.length⟩
    ∃ found after,
      nonBlankForward r.offset (.offset r.finish) false ⟨b.document, classifier, filter⟩ cur =
        .ok (found, after) ∧
      found.isNone = b.lines[line].content.all Text.isBlank := by
  intro r
  let ctx : Context := ⟨b.document, classifier, filter⟩
  have hctx : ctx.Faithful := Context.faithful_document hb classifier filter
  have hfinish : r.finish ≤ ctx.document.length := content_within hline
  have hmin : min r.offset r.finish = r.offset := Nat.min_eq_left r.offset_le_finish
  have htest : (Condition.nonBlank false).test? = some (Condition.isNonBlank false) := rfl
  have hbound : (Bound.offset r.finish).above ctx.document.length = r.finish := rfl
  let out := forward ctx r.finish (cur.moveTo (min r.offset r.finish : Nat)) (.nonBlank false)
  have hends : EndsForward ctx (stopsAt ctx.text (Condition.isNonBlank false)) _ r.offset r.finish
      out :=
    forward_ends (tracks_test htest) hctx hfinish _ _ r.offset (by rw [hmin]; rfl) rfl
  refine ⟨out.found?, out.cursor, ?_, ?_⟩
  · rw [nonBlankForward, Query.offset, forwardWith_eq hctx hbound hfinish]
    rfl
  · rw [Bool.eq_iff_iff, hends.isNone_found?_iff hctx hfinish, Context.text_document]
    exact content_quiet_iff hline

/-- The line of a position is found blank exactly if its content is. -/
theorem isBlankLine_eq (hb : b.length ≤ lastPosition) {position : Nat} (h : position ≤ b.length)
    (hline : lineIndex b.lines position < b.lines.length) (classifier : Classifier)
    (filter : Filter) (cur : Cursor) :
    ∃ after, isBlankLine position ⟨b.document, classifier, filter⟩ cur =
      .ok (b.lines[lineIndex b.lines position].content.all Text.isBlank, after) := by
  obtain ⟨found, after, hscan, hfound⟩ := nonBlankForward_content hb hline classifier filter cur
  rw [isBlankLine, lineRegionOfOffset_eq h hline]
  simp only [bind, Except.bind]
  by_cases hempty : b.lines[lineIndex b.lines position].content = []
  · refine ⟨cur, ?_⟩
    rw [if_pos (by simp [Region.isEmpty, hempty]), hempty]
    rfl
  · refine ⟨after, ?_⟩
    rw [if_neg (by simpa [Region.isEmpty] using hempty), hscan, ← hfound]
    rfl

theorem isBlankLine_beyond {position : Nat} (h : b.length < position) (classifier : Classifier)
    (filter : Filter) (cur : Cursor) :
    isBlankLine position ⟨b.document, classifier, filter⟩ cur =
      .error (.badLocation position b.length) := by
  rw [isBlankLine, lineRegionOfOffset_beyond h]
  rfl

/-- Whether a line is blank cannot be told exactly of a position behind the text, and that is the
only fault: the scan of a line always has a bound within the text. Else the line is blank exactly if
its content has only tabs and space separators, and every other position of the line, those of its
delimiter included, gets the same answer. -/
theorem isBlankLine_exact (b : Buffer) (hmade : b.Made) (hb : b.length ≤ lastPosition)
    (classifier : Classifier) (filter : Filter) (position : Nat) (cur : Cursor) :
    let ctx : Context := ⟨b.document, classifier, filter⟩
    ((∃ fault, isBlankLine position ctx cur = .error fault) ↔ b.length < position) ∧
    (∀ fault, isBlankLine position ctx cur = .error fault →
      fault = .badLocation position b.length) ∧
    (position ≤ b.length → ∃ line l answer after,
      b.lineOfOffset position = .ok line ∧ b.OnLine line position ∧ b.line line = .ok l ∧
      isBlankLine position ctx cur = .ok (answer, after) ∧
      (answer = true ↔ ∀ c ∈ l.content, Text.isBlank c = true) ∧
      (answer = true ↔
        ∀ c ∈ l.content, c = '\t' ∨ (Pattern.ofCategories ["zs"]).hasChar c = true) ∧
      ∀ position' ≤ b.length, b.OnLine line position' →
        ∀ cur', ∃ after', isBlankLine position' ctx cur' = .ok (answer, after')) := by
  intro ctx
  have hcanonical := hmade.canonical
  have hline (o : Nat) : lineIndex b.lines o < b.lines.length :=
    (lineIndex_bounds b.lines o hcanonical.lines_ne_nil).1
  rcases Nat.lt_or_ge b.length position with hbeyond | hwithin
  · have hfault := isBlankLine_beyond hbeyond classifier filter cur
    refine ⟨⟨fun _ => hbeyond, fun _ => ⟨_, hfault⟩⟩, fun fault h => ?_, fun h => by omega⟩
    exact (Except.error.inj (hfault.symm.trans h)).symm
  · obtain ⟨after, hanswer⟩ := isBlankLine_eq hb hwithin (hline position) classifier filter cur
    have hok : ∀ fault, isBlankLine position ctx cur ≠ .error fault := by
      intro fault h
      exact nomatch hanswer.symm.trans h
    refine ⟨⟨fun ⟨fault, h⟩ => (hok fault h).elim, fun h => by omega⟩,
      fun fault h => (hok fault h).elim, fun _ => ?_⟩
    refine ⟨_, _, _, after, lineOfOffset_eq hwithin, (onLine_iff_eq hcanonical position).mpr rfl,
      line_eq (hline position), hanswer, List.all_eq_true, ?_,
      fun position' hwithin' hon cur' => ?_⟩
    · rw [List.all_eq_true]
      simp only [Text.isBlank_iff]
    · rw [onLine_iff_eq hcanonical] at hon
      obtain ⟨after', hanswer'⟩ :=
        isBlankLine_eq hb hwithin' (hline position') classifier filter cur'
      refine ⟨after', ?_⟩
      simp only [hon]
      exact hanswer'

/-- The second line is blank, asked between the two characters of its delimiter. Behind the text
there is no line. -/
theorem isBlankLine_exact_delimiter :
    let b := Buffer.scratch ['a', '\n', ' ', '\t', '\r', '\n']
    let ctx : Context := ⟨b.document, .failing, .defaultOnly⟩
    b.Made ∧ b.length ≤ lastPosition ∧ (∃ after, isBlankLine 5 ctx {} = .ok (true, after)) ∧
      (∃ after, isBlankLine 1 ctx {} = .ok (false, after)) ∧
      ∃ fault, isBlankLine 7 ctx {} = .error fault := by
  intro b ctx
  have hmade : b.Made := .ofText "*scratch*" _
  have hb : b.length ≤ lastPosition := by decide
  have hexact (position : Nat) := isBlankLine_exact b hmade hb .failing .defaultOnly position {}
  refine ⟨hmade, hb, ?_, ?_, (hexact 7).1.mpr (by decide)⟩
  · obtain ⟨line, l, answer, after, hline, -, hl, hanswer, hblank, -⟩ := (hexact 5).2.2 (by decide)
    obtain rfl : 1 = line := Except.ok.inj hline
    obtain rfl : ⟨[' ', '\t'], ['\r', '\n']⟩ = l := Except.ok.inj hl
    obtain rfl : answer = true := hblank.mpr (List.all_eq_true.mp (by decide))
    exact ⟨after, hanswer⟩
  · obtain ⟨line, l, answer, after, hline, -, hl, hanswer, hblank, -⟩ := (hexact 1).2.2 (by decide)
    obtain rfl : 0 = line := Except.ok.inj hline
    obtain rfl : ⟨['a'], ['\n']⟩ = l := Except.ok.inj hl
    have hletter : answer = false := by
      rw [← Bool.not_eq_true, hblank, ← List.all_eq_true]
      decide
    exact ⟨after, hletter ▸ hanswer⟩

end Scan

end PartitionScan
