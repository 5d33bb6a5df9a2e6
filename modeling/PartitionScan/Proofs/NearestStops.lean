import Mathlib.Order.Bounds.Basic
import PartitionScan.Proofs.Lookups
import PartitionScan.Proofs.Runs

/-!
# The nearest line with a stop

A search up the lines reads each line forward by itself and goes on to the line above only if it has
kept no stop. So it gives all stops of one line, in order, and that line is the last one on which
there is any, for no line between it and the end has one.
-/
namespace PartitionScan

def Buffer.linesWith (b : Buffer) (line : Nat) (p : Nat → Prop) : Set Nat :=
  {k | k ≤ line ∧ ∃ o, p o ∧ b.lineOfOffset o = .ok k}

namespace Scan

def LineStops.lineAbove (r : LineStops) : Int := r.above - 1

/-- Whether a scan that stops where a test holds stops at an offset above a bound and before an end.
-/
def StopsWithin (text : List Char) (test : Char → Bool) (bound : Int) (finish o : Nat) : Prop :=
  bound < o ∧ o < finish ∧ stopsAt text test o = true

instance (text : List Char) (test : Char → Bool) (bound : Int) (finish o : Nat) :
    Decidable (StopsWithin text test bound finish o) :=
  inferInstanceAs (Decidable (_ ∧ _ ∧ _))

theorem liveBetween_increasing (live : Nat → Bool) (low high : Nat) :
    (liveBetween live low high).Pairwise (· < ·) :=
  (List.pairwise_lt_range' ..).filter live

theorem mem_liveBetween_liveAbove {text : List Char} {test : Char → Bool} {bound : Int}
    {finish o : Nat} :
    o ∈ liveBetween (liveAbove (stopsAt text test) bound) 0 finish ↔
      StopsWithin text test bound finish o := by
  rw [mem_liveBetween, liveAbove, Bool.and_eq_true, decide_eq_true_eq, StopsWithin]
  constructor
  · rintro ⟨-, hfinish, hbound, hlive⟩
    exact ⟨hbound, hfinish, hlive⟩
  · rintro ⟨hbound, hfinish, hlive⟩
    exact ⟨Nat.zero_le o, hfinish, hbound, hlive⟩

namespace FoundNearest

variable {b : Buffer} {live : Nat → Bool} {finish o : Nat} {r : LineStops}
  (h : FoundNearest b live finish r)
include h

theorem increasing : r.offsets.Pairwise (· < ·) := by
  have hall := liveBetween_increasing live 0 finish
  rw [h.split] at hall
  exact (List.pairwise_append.mp hall).2.1

/-- What was found is what is live from the start of its line on. -/
theorem mem_offsets_iff :
    o ∈ r.offsets ↔ o ∈ liveBetween live 0 finish ∧
      Buffer.extent (b.lines.take r.above) ≤ o := by
  rw [h.split, List.mem_append]
  constructor
  · intro ho
    exact ⟨.inr ho, (h.on_line o ho).1⟩
  · rintro ⟨hbefore | ho, hstart⟩
    · have := (mem_liveBetween.mp hbefore).2.1
      omega
    · exact ho

theorem offsets_eq_nil_iff : r.offsets = [] ↔ liveBetween live 0 finish = [] := by
  rw [h.split, List.append_eq_nil_iff]
  exact ⟨fun hnil => ⟨h.exhausted hnil, hnil⟩, And.right⟩

/-- It is on the line that was read last. -/
theorem lineOfOffset (ho : o ∈ r.offsets) :
    b.lineOfOffset o = .ok r.above := by
  obtain ⟨hstart, hnext⟩ := h.on_line o ho
  have hline : r.above < b.lines.length := by
    refine Nat.lt_of_not_le fun hle => ?_
    rw [List.take_of_length_le hle] at hstart
    rw [List.take_of_length_le (Nat.le_succ_of_le hle)] at hnext
    omega
  have hwithin := Buffer.extent_take_le_length b (r.above + 1)
  exact Buffer.lineOfOffset_ok_iff.mpr ⟨by omega, Buffer.lineIndex_eq hline hstart fun _ => hnext⟩

/-- No line behind it has anything live before the end. -/
theorem isGreatest {p : Nat → Prop} (hp : ∀ o, o ∈ liveBetween live 0 finish ↔ p o) {line : Nat}
    (hlines : b.lines ≠ []) (hline : r.above ≤ line) (ho : o ∈ r.offsets) :
    IsGreatest (b.linesWith line p) r.above := by
  obtain ⟨hlive, hstart⟩ := h.mem_offsets_iff.mp ho
  refine ⟨⟨hline, o, (hp o).mp hlive, h.lineOfOffset ho⟩, ?_⟩
  rintro k ⟨-, q, hq, hk⟩
  rcases Nat.lt_or_ge q o with hbefore | hbehind
  · obtain ⟨-, rfl⟩ := Buffer.lineOfOffset_ok_iff.mp hk
    obtain ⟨-, hindex⟩ := Buffer.lineOfOffset_ok_iff.mp (h.lineOfOffset ho)
    rw [← hindex]
    exact Buffer.lineIndex_mono (Nat.le_of_lt hbefore) hlines
  · have hq' : q ∈ r.offsets := h.mem_offsets_iff.mpr ⟨(hp q).mpr hq, Nat.le_trans hstart hbehind⟩
    exact Nat.le_of_eq (Except.ok.inj (hk.symm.trans (h.lineOfOffset hq')))

end FoundNearest

/-- The stops that a search up the lines from a line gives for a condition that only tests
characters are, in order, those above the bound and before the end that are on the last line with
any. There are none only if no offset above the bound and before the end is a stop, and else the
number given with them is that of the line above theirs. -/
theorem nearestStops_exact (b : Buffer) (hb : b.length ≤ lastPosition) (classifier : Classifier)
    (filter : Filter) (cond : Condition) (test : Char → Bool) (htest : cond.test? = some test)
    (line start length : Nat) (hstart : b.lineOffset line = .ok start)
    (hlength : b.lineLength line = .ok length) (finish : Nat) (hle : start ≤ finish)
    (hfinish : finish ≤ start + length) (bound : Int) (cur : Cursor) :
    let ctx : Context := ⟨b.document, classifier, filter⟩
    let found := StopsWithin b.text test bound finish
    ∃ r, nearestStops ctx bound (line + 1) finish cur cond = .ok r ∧
      r.offsets.Pairwise (· < ·) ∧
      (∀ o, o ∈ r.offsets ↔
        found o ∧ ∃ k, b.lineOfOffset o = .ok k ∧ IsGreatest (b.linesWith line found) k) ∧
      (r.offsets = [] ↔ ∀ o, ¬ found o) ∧
      ∀ o ∈ r.offsets, ∃ k : Nat, b.lineOfOffset o = .ok k ∧ r.lineAbove = k - 1 := by
  intro ctx found
  have hctx : ctx.Faithful := Context.faithful_document hb classifier filter
  obtain ⟨hline, rfl⟩ := Buffer.lineOffset_ok_iff.mp hstart
  obtain ⟨length', hlength', hnext⟩ := Buffer.exists_lineLength hline
  obtain rfl : length' = length := Except.ok.inj (hlength'.symm.trans hlength)
  have hends : b.EndsWithin (line + 1) finish := ⟨hle, hnext ▸ hfinish⟩
  have hlines : b.lines ≠ [] := List.ne_nil_of_length_pos (Nat.zero_lt_of_lt hline)
  obtain ⟨r, hr, -, hnearest⟩ := nearestStops_live (tracks_test htest) hctx (b := b) rfl
    (fun _ hcond => hcond) bound hline hends cur (m := 0) rfl
  rw [Context.text_document] at hnearest
  have hfound (o : Nat) :
      o ∈ liveBetween (liveAbove (stopsAt b.text test) bound) 0 finish ↔ found o :=
    mem_liveBetween_liveAbove
  have hgreatest {o : Nat} (ho : o ∈ r.offsets) : IsGreatest (b.linesWith line found) r.above :=
    hnearest.isGreatest hfound hlines
      (Nat.le_of_lt_succ (nearestStops_above hr (List.ne_nil_of_mem ho))) ho
  have hnil : r.offsets = [] ↔ ∀ o, ¬ found o := by
    rw [hnearest.offsets_eq_nil_iff, List.eq_nil_iff_forall_not_mem]
    exact forall_congr' fun o => not_congr (hfound o)
  refine ⟨r, hr, hnearest.increasing, fun o => ⟨fun ho => ?_, ?_⟩, hnil, fun o ho => ?_⟩
  · have hlive := (hnearest.mem_offsets_iff.mp ho).1
    exact ⟨(hfound o).mp hlive, r.above, hnearest.lineOfOffset ho, hgreatest ho⟩
  · rintro ⟨ho, k, hk, hkgreatest⟩
    obtain ⟨p, hp⟩ := List.exists_mem_of_ne_nil r.offsets fun h => hnil.mp h o ho
    obtain rfl : k = r.above := hkgreatest.unique (hgreatest hp)
    obtain ⟨-, hindex⟩ := Buffer.lineOfOffset_ok_iff.mp hk
    refine hnearest.mem_offsets_iff.mpr ⟨(hfound o).mpr ho, ?_⟩
    rw [← hindex]
    exact (Buffer.lineIndex_bounds b.lines o hlines).2.1
  · exact ⟨r.above, hnearest.lineOfOffset ho, rfl⟩

/-- Of three lines the last two have no parentheses, and of those on the first one is not above the
bound. -/
theorem nearestStops_exact_first_line :
    let b := Buffer.scratch ['(', 'a', ')', '\r', '\n', '\n', 'b', 'c']
    let ctx : Context := ⟨b.document, .whole, .any⟩
    let cond : Condition := .among ['(', ')']
    b.length ≤ lastPosition ∧ cond.test? = some (fun c => ['(', ')'].contains c) ∧
      b.lineOffset 2 = .ok 6 ∧ b.lineLength 2 = .ok 2 ∧
      ∃ r, nearestStops ctx 0 3 8 {} cond = .ok r ∧ (∀ o, o ∈ r.offsets ↔ o = 2) ∧
        r.lineAbove = -1 := by
  intro b ctx cond
  have hb : b.length ≤ lastPosition := by decide
  have htest : cond.test? = some (fun c => ['(', ')'].contains c) := rfl
  have hstart : b.lineOffset 2 = .ok 6 := rfl
  have hlength : b.lineLength 2 = .ok 2 := rfl
  obtain ⟨r, hr, -, hmem, hnil, habove⟩ :=
    nearestStops_exact b hb .whole .any cond _ htest 2 6 2 hstart
    hlength 8 (by decide) (by decide) 0 {}
  have hfound : StopsWithin b.text (fun c => ['(', ')'].contains c) 0 8 2 := by decide
  have honly : ∀ o < 8, StopsWithin b.text (fun c => ['(', ')'].contains c) 0 8 o → o = 2 := by
    decide
  have htwo {o : Nat} (ho : o ∈ r.offsets) : o = 2 :=
    honly o ((hmem o).mp ho).1.2.1 ((hmem o).mp ho).1
  obtain ⟨o, ho⟩ := List.exists_mem_of_ne_nil r.offsets fun h => hnil.mp h 2 hfound
  obtain rfl : o = 2 := htwo ho
  obtain ⟨k, hk, hnumber⟩ := habove 2 ho
  obtain rfl : 0 = k := Except.ok.inj hk
  exact ⟨hb, htest, hstart, hlength, r, hr, fun o => ⟨htwo, fun h => h ▸ ho⟩, hnumber⟩

end Scan

end PartitionScan
