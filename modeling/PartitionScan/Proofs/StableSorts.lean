import Mathlib.Data.List.Forall2
import Mathlib.Data.List.Pairwise

/-!
# Stable sorts

Lists from the highest key to the lowest, where items of one key keep their order. A list has one
stable sort by each key.
-/
namespace PartitionScan

/-- The items of a list from the highest key to the lowest, where items of one key keep their order.
-/
structure SortedStably {α : Type} (key : α → Int) (items sorted : List α) : Prop where
  descending : sorted.Pairwise fun x y => key y ≤ key x
  stable : ∀ k, sorted.filter (key · = k) = items.filter (key · = k)

section

variable {α β : Type} {key key' : α → Int} {items sorted : List α}

theorem mem_iff_of_filter_eq {xs ys : List α}
    (h : ∀ k, xs.filter (key · = k) = ys.filter (key · = k)) (x : α) : x ∈ xs ↔ x ∈ ys := by
  have hmem := congrArg (x ∈ ·) (h (key x))
  simpa using hmem

/-- Descending lists that have the same items of each key, in the same order, are the same. -/
theorem eq_of_descending {xs ys : List α} (hxs : xs.Pairwise fun x y => key y ≤ key x)
    (hys : ys.Pairwise fun x y => key y ≤ key x)
    (h : ∀ k, xs.filter (key · = k) = ys.filter (key · = k)) : xs = ys := by
  induction xs generalizing ys with
  | nil =>
    cases ys with
    | nil => rfl
    | cons y ys => simpa using mem_iff_of_filter_eq h y
  | cons x xs ih =>
    cases ys with
    | nil => simpa using mem_iff_of_filter_eq h x
    | cons y ys =>
      rw [List.pairwise_cons] at hxs hys
      -- Both heads have the highest key.
      have hle : key x ≤ key y := by
        rcases List.mem_cons.mp ((mem_iff_of_filter_eq h x).mp List.mem_cons_self) with rfl | hx
        · exact Int.le_refl _
        · exact hys.1 x hx
      have hge : key y ≤ key x := by
        rcases List.mem_cons.mp ((mem_iff_of_filter_eq h y).mpr List.mem_cons_self) with rfl | hy
        · exact Int.le_refl _
        · exact hxs.1 y hy
      have hkey : key y = key x := Int.le_antisymm hge hle
      obtain ⟨rfl, -⟩ : x = y ∧ _ := by simpa [hkey] using h (key x)
      rw [ih hxs.2 hys.2 fun k => ?_]
      have hk := h k
      by_cases hxk : key x = k
      · simpa [hxk] using hk
      · simpa [hxk] using hk

namespace SortedStably

theorem mem_iff (h : SortedStably key items sorted) {x : α} : x ∈ sorted ↔ x ∈ items :=
  mem_iff_of_filter_eq h.stable x

/-- There is one way to sort stably. -/
theorem unique {sorted' : List α} (h : SortedStably key items sorted)
    (h' : SortedStably key items sorted') : sorted = sorted' :=
  eq_of_descending h.descending h'.descending fun k => (h.stable k).trans (h'.stable k).symm

theorem congr {items' : List α} (h : SortedStably key items sorted)
    (hitems : ∀ k, items.filter (key · = k) = items'.filter (key · = k)) :
    SortedStably key items' sorted :=
  ⟨h.descending, fun k => (h.stable k).trans (hitems k)⟩

theorem descending_trans (key : α → Int) (x y z : α) (hxy : decide (key y ≤ key x) = true)
    (hyz : decide (key z ≤ key y) = true) : decide (key z ≤ key x) = true := by
  rw [decide_eq_true_eq] at *
  exact Int.le_trans hyz hxy

theorem descending_total (key : α → Int) (x y : α) :
    (decide (key y ≤ key x) || decide (key x ≤ key y)) = true := by
  rw [Bool.or_eq_true, decide_eq_true_eq, decide_eq_true_eq]
  exact Int.le_total (key y) (key x)

/-- Sorting by merging is stable. -/
theorem mergeSort (key : α → Int) (items : List α) :
    SortedStably key items (items.mergeSort fun x y => decide (key y ≤ key x)) := by
  have htrans := descending_trans key
  have htotal := descending_total key
  refine ⟨(List.pairwise_mergeSort htrans htotal items).imp of_decide_eq_true, fun k => ?_⟩
  have hequal : (items.filter (key · = k)).Pairwise fun x y => decide (key y ≤ key x) = true := by
    rw [List.pairwise_filter]
    refine List.pairwise_of_forall fun x y hx hy => ?_
    simp only [decide_eq_true_eq] at hx hy ⊢
    exact Int.le_of_eq (hy.trans hx.symm)
  have hsublist :=
    (List.sublist_mergeSort htrans htotal hequal List.filter_sublist).filter (key · = k)
  simp only [List.filter_filter, Bool.and_self] at hsublist
  refine (hsublist.eq_of_length ?_).symm
  exact ((List.mergeSort_perm items _).filter _).length_eq.symm

theorem key_congr (h : SortedStably key items sorted) (hkey : ∀ x ∈ items, key' x = key x) :
    SortedStably key' items sorted := by
  have hfilter (k : Int) : items.filter (key' · = k) = items.filter (key · = k) :=
    List.filter_congr fun x hx => by rw [hkey x hx]
  have hkey' : ∀ x ∈ sorted, key' x = key x := fun x hx => hkey x (h.mem_iff.mp hx)
  refine ⟨h.descending.imp_of_mem fun hx hy hle => ?_, fun k => ?_⟩
  · rwa [hkey' _ hx, hkey' _ hy]
  · rw [hfilter, ← h.stable k]
    exact List.filter_congr fun x hx => by rw [hkey' x hx]

theorem map {f : α → β} {key : β → Int} (h : SortedStably (key ∘ f) items sorted) :
    SortedStably key (items.map f) (sorted.map f) := by
  refine ⟨List.pairwise_map.mpr h.descending, fun k => ?_⟩
  rw [List.filter_map, List.filter_map]
  exact congrArg (List.map f) (h.stable k)

/-- Lists that are related item by item are still so when both are sorted by keys that agree. -/
theorem exists_forall₂ {R : α → β → Prop} {key : α → Int} {key' : β → Int} {xs : List α}
    {ys sorted : List β} (hrelated : List.Forall₂ R xs ys) (hkey : ∀ x y, R x y → key x = key' y)
    (h : SortedStably key' ys sorted) :
    ∃ xs', SortedStably key xs xs' ∧ List.Forall₂ R xs' sorted := by
  -- Each item is sorted together with the one that it is related to.
  obtain ⟨hlength, hzip⟩ := List.forall₂_iff_zip.mp hrelated
  have hsorted := mergeSort (key ∘ Prod.fst) (xs.zip ys)
  refine ⟨_, List.map_fst_zip (Nat.le_of_eq hlength) ▸ hsorted.map, ?_⟩
  have hpairs : ∀ p ∈ xs.zip ys, R p.1 p.2 := fun p hp => hzip hp
  have hright : SortedStably (key' ∘ Prod.snd) (xs.zip ys) _ :=
    hsorted.key_congr fun p hp => (hkey _ _ (hpairs p hp)).symm
  rw [h.unique (List.map_snd_zip (Nat.le_of_eq hlength.symm) ▸ hright.map),
    List.forall₂_map_left_iff,
    List.forall₂_map_right_iff, List.forall₂_same]
  exact fun p hp => hpairs p (hsorted.mem_iff.mp hp)

theorem pair_sublist (h : SortedStably key items sorted) {x y : α} (hxy : [x, y].Sublist items)
    (hle : key y ≤ key x) : [x, y].Sublist sorted := by
  rw [h.unique (mergeSort key items)]
  exact List.pair_sublist_mergeSort (descending_trans key) (descending_total key)
    (decide_eq_true hle) hxy

/-- A stable sort by one key is one by another key if the keys agree on which item of a pair comes
to stand before the other. -/
theorem iff_pairwise (h : SortedStably key items sorted) (key' : α → Int) :
    SortedStably key' items sorted ↔
      items.Pairwise fun x y => (key' x < key' y ↔ key x < key y) := by
  constructor
  · intro h'
    rw [List.pairwise_iff_forall_sublist]
    have hside {key key' : α → Int} (h : SortedStably key items sorted)
        (h' : SortedStably key' items sorted) {x y : α} (hxy : [x, y].Sublist items)
        (hlt : key' x < key' y) : key x < key y := by
      by_contra hle
      have := List.pairwise_iff_forall_sublist.mp h'.descending (h.pair_sublist hxy (by omega))
      omega
    exact fun {_ _} hxy => ⟨hside h h' hxy, hside h' h hxy⟩
  · intro hagree
    have hopposite : ∀ x ∈ items, ∀ y ∈ items, ¬(key' x < key' y ∧ key y < key x) := by
      refine List.Pairwise.forall_of_forall_of_flip (fun _ _ h => by omega)
        (hagree.imp fun h => ?_) (hagree.imp fun h => ?_)
      · omega
      · rw [flip]
        omega
    refine ⟨?_, fun k => ?_⟩
    · rw [List.pairwise_iff_forall_sublist]
      intro x y hxy
      have hle : key y ≤ key x := List.pairwise_iff_forall_sublist.mp h.descending hxy
      by_cases hlt : key y < key x
      · have := hopposite x (h.mem_iff.mp (hxy.subset (by simp))) y
          (h.mem_iff.mp (hxy.subset (by simp)))
        omega
      · -- Items of one key stand as they did before.
        have hkey : key y = key x := by omega
        have hfilter := hxy.filter (key · = key x)
        rw [h.stable (key x)] at hfilter
        have hitems : [x, y].Sublist items := by
          simpa [hkey] using hfilter.trans List.filter_sublist
        have := List.pairwise_iff_forall_sublist.mp hagree hitems
        omega
    · refine eq_of_descending (h.descending.sublist List.filter_sublist) ?_ fun j => ?_
      · rw [List.pairwise_filter]
        refine hagree.imp fun hxy hx hy => ?_
        rw [decide_eq_true_eq] at hx hy
        omega
      · rw [List.filter_comm, h.stable j, List.filter_comm]

end SortedStably

end

end PartitionScan
