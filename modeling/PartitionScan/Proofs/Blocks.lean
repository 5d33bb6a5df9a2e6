import PartitionScan.Proofs.Escapes
import PartitionScan.Scan.Regions

/-!
# Blocks of lines

The block of two positions runs from the line of the lower one through the line of the last
character before the higher one. No line but the last is empty, so that this line is the one before
whenever the higher position is the start of a later line. The block is the least run of whole lines
that holds what is between the positions.
-/
namespace PartitionScan

namespace Region

def Within (r s : Region) : Prop := s.offset ≤ r.offset ∧ r.finish ≤ s.finish

def between (low high : Nat) : Region := ⟨low, high - low⟩

theorem finish_between {low high : Nat} (h : low ≤ high) : (between low high).finish = high :=
  Nat.add_sub_of_le h

theorem offset_le_finish (r : Region) : r.offset ≤ r.finish := Nat.le_add_right r.offset r.length

theorem between_finish (r : Region) : between r.offset r.finish = r := by
  rw [between, finish, Nat.add_sub_cancel_left]

theorem Within.trans {r s t : Region} (h : r.Within s) (h' : s.Within t) : r.Within t :=
  ⟨Nat.le_trans h'.1 h.1, Nat.le_trans h.2 h'.2⟩

theorem Within.antisymm {r s : Region} (h : r.Within s) (h' : s.Within r) : r = s := by
  rw [← between_finish r, ← between_finish s, Nat.le_antisymm h'.1 h.1, Nat.le_antisymm h.2 h'.2]

end Region

namespace Buffer

def block (b : Buffer) (first last : Nat) : Region :=
  ⟨extent (b.lines.take first), extent (b.lines.take (last + 1)) - extent (b.lines.take first)⟩

section

variable {b : Buffer} {first last : Nat}

@[simp] theorem offset_block : (b.block first last).offset = extent (b.lines.take first) := rfl

theorem finish_block (h : first ≤ last) :
    (b.block first last).finish = extent (b.lines.take (last + 1)) :=
  Nat.add_sub_of_le (extent_take_le (Nat.le_succ_of_le h))

/-- A block has all the characters of its lines. -/
theorem text_block (h : first ≤ last) :
    (b.text.drop (b.block first last).offset).take (b.block first last).length =
      joined ((b.lines.drop first).take (last + 1 - first)) := by
  have hsplit : b.lines.take (last + 1) =
      b.lines.take first ++ (b.lines.drop first).take (last + 1 - first) := by
    rw [← List.take_add]
    congr 1
    omega
  have htext : b.text = joined (b.lines.take first) ++
      (joined ((b.lines.drop first).take (last + 1 - first)) ++
        joined (b.lines.drop (last + 1))) := by
    rw [← List.append_assoc, ← joined_append, ← hsplit, ← joined_append, List.take_append_drop]
    rfl
  have hlength : (b.block first last).length =
      (joined ((b.lines.drop first).take (last + 1 - first))).length := by
    rw [length_joined, block, hsplit, extent_append, Nat.add_sub_cancel_left]
  rw [htext, offset_block, ← length_joined, List.drop_left, hlength, List.take_left]

/-- A block of more lines holds a block of fewer. -/
theorem within_block {first' last' : Nat} (hfirst : first' ≤ first) (h : first ≤ last)
    (hlast : last ≤ last') : (b.block first last).Within (b.block first' last') := by
  refine ⟨extent_take_le hfirst, ?_⟩
  rw [finish_block h, finish_block (Nat.le_trans hfirst (Nat.le_trans h hlast))]
  exact extent_take_le (Nat.succ_le_succ hlast)

end

/-- The start of a line lies on that line. -/
theorem lineIndex_lineStart {b : Buffer} (hb : b.Canonical) {line : Nat}
    (h : line < b.lines.length) :
    lineIndex b.lines (extent (b.lines.take line)) = line :=
  lineIndex_eq h (Nat.le_refl _) (hb.extent_take_lt line.lt_succ_self)

/-- An offset that is the start of a later line than another's follows the line before. -/
theorem lineIndex_pred {b : Buffer} (hb : b.Canonical) {low high : Nat} (hlt : low < high) :
    lineIndex b.lines (high - 1) =
      if lineIndex b.lines low < lineIndex b.lines high ∧
        extent (b.lines.take (lineIndex b.lines high)) = high
      then lineIndex b.lines high - 1 else lineIndex b.lines high := by
  have hne := hb.lines_ne_nil
  obtain ⟨hline, hstart, hnext⟩ := lineIndex_bounds b.lines high hne
  obtain ⟨-, hlow, -⟩ := lineIndex_bounds b.lines low hne
  split
  next h =>
    obtain ⟨hlater, hhigh⟩ := h
    have hpred : lineIndex b.lines high - 1 + 1 = lineIndex b.lines high := by omega
    apply lineIndex_eq (by omega)
    · have hshort : extent (b.lines.take (lineIndex b.lines high - 1)) <
          extent (b.lines.take (lineIndex b.lines high)) := hb.extent_take_lt (by omega) hline
      omega
    · intro _
      rw [hpred]
      omega
  next h =>
    apply lineIndex_eq hline
    · have hle := lineIndex_mono (Nat.le_of_lt hlt) hne
      refine Nat.le_sub_one_of_lt (Nat.lt_of_le_of_ne hstart fun hhigh => ?_)
      refine h ⟨Nat.lt_of_le_of_ne hle fun heq => ?_, hhigh⟩
      rw [heq] at hlow
      omega
    · intro hlast
      have := hnext hlast
      omega

/-- The last offset of what is between two positions; the position itself if they are equal. -/
def lastBetween (low high : Nat) : Nat := if low < high then high - 1 else low

theorem le_lastBetween {low high : Nat} (h : low ≤ high) :
    low ≤ lastBetween low high ∧ lastBetween low high ≤ high ∧ high ≤ lastBetween low high + 1 := by
  rw [lastBetween]
  split <;> omega

/-- The lines from that of a position through that of the last offset up to another one. -/
def blockAround (b : Buffer) (low high : Nat) : Region :=
  b.block (lineIndex b.lines low) (lineIndex b.lines (lastBetween low high))

section

variable {b : Buffer} {low high : Nat}

theorem blockAround_ordered (hne : b.lines ≠ []) (hle : low ≤ high) :
    lineIndex b.lines low ≤ lineIndex b.lines (lastBetween low high) :=
  lineIndex_mono (le_lastBetween hle).1 hne

theorem finish_blockAround_le (hne : b.lines ≠ []) (hle : low ≤ high) :
    (b.blockAround low high).finish ≤ b.length := by
  rw [blockAround, finish_block (blockAround_ordered hne hle)]
  exact extent_take_le_length b _

/-- What is between two positions lies on the lines of its block. -/
theorem between_within_blockAround (hne : b.lines ≠ []) (hle : low ≤ high) (h : high ≤ b.length) :
    (Region.between low high).Within (b.blockAround low high) := by
  have hnear := (le_lastBetween hle).2.2
  obtain ⟨-, hstart, -⟩ := lineIndex_bounds b.lines low hne
  obtain ⟨-, -, hnext⟩ := lineIndex_bounds b.lines (lastBetween low high) hne
  refine ⟨hstart, ?_⟩
  rw [blockAround, finish_block (blockAround_ordered hne hle), Region.finish_between hle]
  by_cases hmore : lineIndex b.lines (lastBetween low high) + 1 < b.lines.length
  · have := hnext hmore
    omega
  · rwa [List.take_of_length_le (Nat.le_of_not_lt hmore), ← length_eq_extent]

/-- Any lines that hold what is between the positions hold its block. If nothing is between them,
this is said of lines among which the position is. -/
theorem blockAround_within (hne : b.lines ≠ []) (hle : low ≤ high) {i j : Nat} (hij : i ≤ j)
    (hj : j < b.lines.length)
    (hholds : low < high ∨ i ≤ lineIndex b.lines low ∧ lineIndex b.lines low ≤ j)
    (hwithin : (Region.between low high).Within (b.block i j)) :
    (b.blockAround low high).Within (b.block i j) := by
  obtain ⟨hlow, hhigh⟩ := hwithin
  rw [finish_block hij, Region.finish_between hle] at hhigh
  obtain ⟨-, -, hnext⟩ := lineIndex_bounds b.lines low hne
  obtain ⟨-, hstart, -⟩ := lineIndex_bounds b.lines (lastBetween low high) hne
  have hlines : i ≤ lineIndex b.lines low ∧ lineIndex b.lines (lastBetween low high) ≤ j := by
    by_cases hlt : low < high
    · rw [lastBetween, if_pos hlt] at hstart ⊢
      constructor
      · refine Nat.le_of_not_lt fun hbefore => ?_
        have hmono : extent (b.lines.take (lineIndex b.lines low + 1)) ≤ extent (b.lines.take i) :=
          extent_take_le hbefore
        have hlow : extent (b.lines.take i) ≤ low := hlow
        have := hnext (by omega)
        omega
      · refine Nat.le_of_not_lt fun hbehind => ?_
        have hmono : extent (b.lines.take (j + 1)) ≤
            extent (b.lines.take (lineIndex b.lines (high - 1))) := extent_take_le hbehind
        omega
    · rw [lastBetween, if_neg hlt]
      exact hholds.resolve_left hlt
  exact within_block hlines.1 (blockAround_ordered hne hle) hlines.2

/-- The block grows with what is between the positions. -/
theorem blockAround_mono (hne : b.lines ≠ []) (hlt : low < high) {low' high' : Nat}
    (h : (Region.between low high).Within (Region.between low' high')) (hle' : low' ≤ high')
    (hhigh' : high' ≤ b.length) :
    (b.blockAround low high).Within (b.blockAround low' high') :=
  blockAround_within hne (Nat.le_of_lt hlt) (blockAround_ordered hne hle')
    (lineIndex_bounds b.lines (lastBetween low' high') hne).1 (.inl hlt)
    (h.trans (between_within_blockAround hne hle' hhigh'))

/-- A block is its own block. -/
theorem blockAround_self (hb : b.Canonical) (hle : low ≤ high) :
    b.blockAround (b.blockAround low high).offset (b.blockAround low high).finish =
      b.blockAround low high := by
  have hne := hb.lines_ne_nil
  have horder := blockAround_ordered hne hle
  have hordered := (b.blockAround low high).offset_le_finish
  have hwithin := between_within_blockAround hne hordered (finish_blockAround_le hne hle)
  rw [Region.between_finish] at hwithin
  refine Region.Within.antisymm (blockAround_within hne hordered horder
    (lineIndex_bounds b.lines (lastBetween low high) hne).1 (.inr ?_) ?_) hwithin
  · rw [blockAround, offset_block, lineIndex_lineStart hb (lineIndex_bounds b.lines low hne).1]
    exact ⟨Nat.le_refl _, horder⟩
  · rw [Region.between_finish]
    exact ⟨Nat.le_refl _, Nat.le_refl _⟩

end

end Buffer

namespace Scan

open Buffer

variable {b : Buffer}

theorem textBlock_comm (d : Document) (x y : Nat) : textBlock d x y = textBlock d y x := by
  rw [textBlock, textBlock, Nat.min_comm, Nat.max_comm]

theorem textBlock_beyond {x y : Nat} (h : b.length < max x y) :
    ∃ fault, textBlock b.document x y = .error fault := by
  rw [textBlock, lineOfOffset_document]
  by_cases hlow : b.length < min x y
  · exact ⟨_, by rw [lineOfOffset_beyond hlow]; rfl⟩
  · refine ⟨.badLocation (max x y) b.length, ?_⟩
    rw [lineOfOffset_eq (Nat.le_of_not_lt hlow), lineOfOffset_beyond h]
    rfl

/-- The block of two positions. -/
theorem textBlock_eq (hb : b.Canonical) {x y : Nat} (h : max x y ≤ b.length) :
    textBlock b.document x y = .ok (b.blockAround (min x y) (max x y)) := by
  have hne := hb.lines_ne_nil
  have hle : min x y ≤ max x y := by omega
  obtain ⟨hfirst, -⟩ := lineIndex_bounds b.lines (min x y) hne
  obtain ⟨hreached, -⟩ := lineIndex_bounds b.lines (max x y) hne
  have hlast : lineIndex b.lines (lastBetween (min x y) (max x y)) =
      if lineIndex b.lines (min x y) < lineIndex b.lines (max x y) ∧
        extent (b.lines.take (lineIndex b.lines (max x y))) = max x y
      then lineIndex b.lines (max x y) - 1 else lineIndex b.lines (max x y) := by
    by_cases hlt : min x y < max x y
    · rw [lastBetween, if_pos hlt, lineIndex_pred hb hlt]
    · rw [lastBetween, if_neg hlt, show max x y = min x y by omega]
      simp
  have hbound : lineIndex b.lines (lastBetween (min x y) (max x y)) < b.lines.length :=
    (lineIndex_bounds b.lines _ hne).1
  obtain ⟨length, hlength, hfinish⟩ := exists_lineLength hbound
  rw [textBlock, lineOfOffset_document, lineOfOffset_eq (Nat.le_trans hle h), lineOfOffset_eq h]
  simp only [bind, Except.bind, pure, Except.pure, lineOffset_document, lineLength_document,
    lineOffset_eq hreached, ← hlast,
    lineOffset_eq hfirst, lineOffset_eq hbound, hlength, hfinish]
  rfl

/-- The block of two positions exists exactly if the higher one is not behind the text, and does not
depend on their order. It has all the characters of the lines from that of the lower position
through that of the last offset between them; it is the least run of whole lines around what is
between them, grows with it, and is its own block. -/
theorem textBlock_least_cover (b : Buffer) (hmade : b.Made) (x y : Nat) :
    let low := min x y
    let high := max x y
    ((∃ fault, textBlock b.document x y = .error fault) ↔ b.length < high) ∧
    textBlock b.document x y = textBlock b.document y x ∧
    (high ≤ b.length → ∃ first last r,
      b.lineOfOffset low = .ok first ∧
      b.lineOfOffset (if low < high then high - 1 else low) = .ok last ∧
      first ≤ last ∧ textBlock b.document x y = .ok r ∧ r = b.block first last ∧
      (b.text.drop r.offset).take r.length = joined ((b.lines.drop first).take (last + 1 - first)) ∧
      (Region.between low high).Within r ∧
      (∀ i j, i ≤ j → j < b.lines.length → (low < high ∨ i ≤ first ∧ first ≤ j) →
        (Region.between low high).Within (b.block i j) → r.Within (b.block i j)) ∧
      (low < high → ∀ x' y' r',
        (Region.between low high).Within (Region.between (min x' y') (max x' y')) →
        textBlock b.document x' y' = .ok r' → r.Within r') ∧
      textBlock b.document r.offset r.finish = .ok r) := by
  intro low high
  have hb := hmade.canonical
  have hne := hb.lines_ne_nil
  have hle : low ≤ high := by omega
  refine ⟨⟨?_, textBlock_beyond⟩, textBlock_comm b.document x y, fun hhigh => ?_⟩
  · rintro ⟨fault, hfault⟩
    refine Nat.lt_of_not_le fun hhigh => ?_
    rw [textBlock_eq hb hhigh] at hfault
    cases hfault
  have hline (o : Nat) : lineIndex b.lines o < b.lines.length := (lineIndex_bounds b.lines o hne).1
  have horder := blockAround_ordered hne hle
  have hlast : lastBetween low high ≤ b.length := Nat.le_trans (le_lastBetween hle).2.1 hhigh
  refine ⟨_, _, _, lineOfOffset_eq (Nat.le_trans hle hhigh), lineOfOffset_eq hlast, horder,
    textBlock_eq hb hhigh, rfl, text_block horder, between_within_blockAround hne hle hhigh,
    fun i j hij hj hholds => blockAround_within hne hle hij hj hholds, ?_, ?_⟩
  · intro hlt x' y' r' hwithin hr'
    by_cases hhigh' : max x' y' ≤ b.length
    · rw [textBlock_eq hb hhigh'] at hr'
      obtain rfl := Except.ok.inj hr'
      exact blockAround_mono hne hlt hwithin (by omega) hhigh'
    · obtain ⟨fault, hfault⟩ := textBlock_beyond (Nat.lt_of_not_le hhigh')
      exact nomatch hfault.symm.trans hr'
  · have hordered := (b.blockAround low high).offset_le_finish
    have hlength := finish_blockAround_le (b := b) hne hle
    rw [textBlock_eq hb (by rwa [Nat.max_eq_right hordered]), Nat.min_eq_left hordered,
      Nat.max_eq_right hordered, blockAround_self hb hle]

/-- The higher position is the start of the third line, which stays out. -/
theorem textBlock_least_cover_line_start :
    let b := Buffer.scratch ['a', '\r', '\n', 'b', '\n', 'c']
    b.Made ∧ textBlock b.document 5 1 = .ok ⟨0, 5⟩ ∧ textBlock b.document 0 5 = .ok ⟨0, 5⟩ := by
  intro b
  have hmade : b.Made := .ofText "*scratch*" _
  obtain ⟨-, -, hblock⟩ := textBlock_least_cover b hmade 5 1
  obtain ⟨first, last, r, hfirst, hlast, -, hr, hregion, -, -, -, -, hself⟩ := hblock (by decide)
  obtain rfl : 0 = first := Except.ok.inj hfirst
  obtain rfl : 1 = last := Except.ok.inj hlast
  subst hregion
  exact ⟨hmade, hr, hself⟩

end Scan

end PartitionScan
