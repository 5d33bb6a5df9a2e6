import Mathlib.Order.Bounds.Basic
import PartitionScan.Line
import PartitionScan.Text.Width

/-!
# Display columns

A display column is what the characters before it add up to, where what a tab adds depends on the
sum so far. From one column of characters to the next there is one such step, and no step goes back,
so that the columns of a line are monotone and end with the width of its content. A sum that is no
offset any more is a fault, from which no later column recovers.
-/
namespace PartitionScan.Line

section

variable {width : Char → Nat} {tabWidth m n : Nat} {c : Char}

theorem addOffsets_eq_ok_iff {k : Nat} :
    addOffsets m n = .ok k ↔ m + n < offsetLimit ∧ k = m + n := by
  rw [addOffsets]
  split
  next hlt => simp [hlt, eq_comm]
  next hle => simp [hle]

/-- A tab leads to the next multiple of the tab width, also from a multiple of it. -/
theorem isLeast_add_cells_tab (h : 0 < tabWidth) (m : Nat) :
    IsLeast {k | tabWidth ∣ k ∧ m < k} (m + cells width tabWidth m '\t') := by
  have hnext : m + cells width tabWidth m '\t' = tabWidth * (m / tabWidth + 1) := by
    have hsum := Nat.div_add_mod m tabWidth
    have hrest := Nat.mod_lt m h
    rw [cells, if_pos rfl, Nat.mul_succ]
    omega
  rw [hnext]
  constructor
  · exact ⟨Nat.dvd_mul_right _ _, Nat.lt_mul_div_succ m h⟩
  · rintro k ⟨⟨q, rfl⟩, hlt⟩
    have hq : m / tabWidth < q := Nat.div_lt_of_lt_mul hlt
    exact Nat.mul_le_mul_left tabWidth hq

theorem cells_of_ne_tab (h : c ≠ '\t') : cells width tabWidth m c = width c := if_neg h

end

section

variable {l : Line} {width : Char → Nat} {tabWidth column : Nat}

/-- The step from one column to the next. -/
theorem displayColumn_succ (h : column < l.content.length) :
    l.displayColumn width tabWidth (column + 1) =
      (l.displayColumn width tabWidth column).bind
        (advance width (max tabWidth 1) · l.content[column]) := by
  rw [displayColumn, List.take_succ_eq_append_getElem h, List.foldlM_append]
  simp only [List.foldlM_cons, List.foldlM_nil, bind_pure]
  rfl

theorem displayColumn_of_length_le (h : l.content.length ≤ column) :
    l.displayColumn width tabWidth column = l.displayWidth width tabWidth := by
  rw [displayWidth, displayColumn, displayColumn, List.take_of_length_le h, List.take_length]

theorem charAt?_content (h : column < l.content.length) :
    l.charAt? column = some l.content[column] := by
  rw [charAt?, chars, List.getElem?_append_left h, List.getElem?_eq_getElem h]

/-- No step goes back, and none leads from a fault to a column. -/
theorem displayColumn_of_succ {m : Nat} (h : l.displayColumn width tabWidth (column + 1) = .ok m) :
    ∃ n ≤ m, l.displayColumn width tabWidth column = .ok n := by
  rcases Nat.lt_or_ge column l.content.length with hinside | hbehind
  · rw [displayColumn_succ hinside] at h
    cases hbefore : l.displayColumn width tabWidth column with
    | error fault =>
      rw [hbefore] at h
      cases h
    | ok n =>
      rw [hbefore] at h
      obtain ⟨-, rfl⟩ := addOffsets_eq_ok_iff.mp h
      exact ⟨n, Nat.le_add_right n _, rfl⟩
  · rw [displayColumn_of_length_le (Nat.le_succ_of_le hbehind)] at h
    rw [displayColumn_of_length_le hbehind]
    exact ⟨m, Nat.le_refl m, h⟩

theorem displayColumn_mono {column' m : Nat} (hle : column ≤ column')
    (h : l.displayColumn width tabWidth column' = .ok m) :
    ∃ n ≤ m, l.displayColumn width tabWidth column = .ok n := by
  induction column', hle using Nat.le_induction generalizing m with
  | base => exact ⟨m, Nat.le_refl m, h⟩
  | succ column' hle ih =>
    obtain ⟨k, hk, hbefore⟩ := displayColumn_of_succ h
    obtain ⟨n, hn, hcolumn⟩ := ih hbefore
    exact ⟨n, Nat.le_trans hn hk, hcolumn⟩

end

/-- Display columns begin at 0 and never go back. From a column on there is one step: at a tab to
the next multiple of the tab width, at any other character by its width, as long as that is an
offset. Behind the end of the content they stay at its width, whatever the delimiter is. -/
theorem displayColumn_exact (width : Char → Nat) (l : Line) (tabWidth : Nat) :
    l.displayColumn width tabWidth 0 = .ok 0 ∧
    (∀ column column' m, column ≤ column' → l.displayColumn width tabWidth column' = .ok m →
      ∃ n ≤ m, l.displayColumn width tabWidth column = .ok n) ∧
    (∀ column, l.content.length ≤ column →
      l.displayColumn width tabWidth column = l.displayWidth width tabWidth) ∧
    (∀ column < l.content.length, ∃ c, l.charAt? column = some c ∧
      ∀ m, l.displayColumn width tabWidth column = .ok m → ∃ next,
        l.displayColumn width tabWidth (column + 1) =
          (if next < offsetLimit then .ok next else .error .overflow) ∧
        (c = '\t' → IsLeast {k | max tabWidth 1 ∣ k ∧ m < k} next) ∧
        (c ≠ '\t' → next = m + width c)) ∧
    ∀ delimiter column, { l with delimiter }.displayColumn width tabWidth column =
      l.displayColumn width tabWidth column := by
  refine ⟨rfl, fun _ _ _ => displayColumn_mono, fun _ => displayColumn_of_length_le,
    fun column h => ⟨l.content[column], charAt?_content h, fun m hm =>
      ⟨m + cells width (max tabWidth 1) m l.content[column], ?_, fun htab => ?_, fun hne => ?_⟩⟩,
    fun _ _ => rfl⟩
  · rw [displayColumn_succ h, hm]
    rfl
  · rw [htab]
    exact isLeast_add_cells_tab (Nat.le_max_right tabWidth 1) m
  · rw [cells_of_ne_tab hne]

/-- With a tab width of half the offsets, the second tab leads to a column that is no offset. -/
theorem displayColumn_beyond_offsets :
    let l : Line := ⟨['\t', '\t'], []⟩
    let tabWidth := lastPosition + 1
    let column := l.displayColumn Text.width tabWidth
    column 1 = .ok tabWidth ∧ l.charAt? 1 = some '\t' ∧ column 2 = .error .overflow ∧
      ¬ ∃ next, column 2 = .ok next ∧ IsLeast {k | max tabWidth 1 ∣ k ∧ tabWidth < k} next := by
  intro l tabWidth column
  have hfault : column 2 = .error .overflow := by decide
  refine ⟨by decide, rfl, hfault, ?_⟩
  rintro ⟨next, hnext, -⟩
  rw [hfault] at hnext
  cases hnext

/-- A tab leads to the next multiple of 4 both from a multiple and from between two, and the
delimiter adds nothing. -/
example : [0, 1, 3, 4, 5, 6, 9].map
    (displayColumn Text.width ⟨['\t', '你', '好', '\t', 'x', '\t'], ['\r', '\n']⟩ 4) =
      [0, 4, 8, 12, 13, 16, 16].map .ok := by decide +kernel

end PartitionScan.Line
