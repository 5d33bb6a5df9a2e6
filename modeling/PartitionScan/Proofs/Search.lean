import Mathlib.Data.Finset.Card
import PartitionScan.Pattern.Bounds
import PartitionScan.Proofs.Scanning
import PartitionScan.Rule

/-!
# Searches find the leftmost match

An exploration enters no node twice at a place, also not when the search has moved on to another
start. That loses no match: what has been seen is closed under the steps of the program, up to what
still waits, and holds no node that accepts. The steps allowed are enough, for each node and place
puts two others in line at most.
-/
namespace PartitionScan.Pattern

open Scan (Least least_some least_none)

/-- Node `q` at place `i` leads to acceptance at place `j` in so many steps. -/
def AcceptsIn (program : Array Node) (text : Array Char) : Nat → Nat → Nat → Nat → Prop
  | 0, q, i, j => program[q]? = some .accept ∧ i = j
  | steps + 1, q, i, j => ∃ node, program[q]? = some node ∧
      ∃ s ∈ node.successors text i, AcceptsIn program text steps s.1 s.2 j

def Accepts (program : Array Node) (text : Array Char) (q i j : Nat) : Prop :=
  ∃ steps, AcceptsIn program text steps q i j

variable {program : Array Node} {text : Array Char}

theorem Accepts.here {q i : Nat} (h : program[q]? = some .accept) : Accepts program text q i i :=
  ⟨0, h, rfl⟩

theorem Accepts.step {q i j : Nat} {node : Node} (h : program[q]? = some node) {s : Nat × Nat}
    (hs : s ∈ node.successors text i) (hj : Accepts program text s.1 s.2 j) :
    Accepts program text q i j := by
  obtain ⟨steps, hj⟩ := hj
  exact ⟨steps + 1, node, h, s, hs, hj⟩

/-- An end that is found can be reached from what waits. -/
theorem accepts_of_explore (fuel : Nat) (waiting : List (Nat × Nat)) (seen : Std.TreeSet Nat)
    {j : Nat} (h : (explore program text fuel waiting seen).1 = some j) :
    ∃ s ∈ waiting, Accepts program text s.1 s.2 j := by
  fun_induction explore program text fuel waiting seen with
  | case1 => cases h
  | case2 => cases h
  | case3 fuel q i waiting seen hq ih =>
    obtain ⟨s, hs, haccepts⟩ := ih h
    exact ⟨s, List.mem_cons_of_mem _ hs, haccepts⟩
  | case4 fuel q i waiting seen hq =>
    obtain rfl := Option.some.inj h
    exact ⟨(q, i), List.mem_cons_self, .here hq⟩
  | case5 fuel q i waiting seen node hnode hq hseen ih =>
    obtain ⟨s, hs, haccepts⟩ := ih h
    exact ⟨s, List.mem_cons_of_mem _ hs, haccepts⟩
  | case6 fuel q i waiting seen node hnode hq hseen ih =>
    obtain ⟨s, hs, haccepts⟩ := ih h
    rcases List.mem_append.mp hs with hs | hs
    · exact ⟨(q, i), List.mem_cons_self, .step hq hs haccepts⟩
    · exact ⟨s, List.mem_cons_of_mem _ hs, haccepts⟩

/-- A node of the program that has been entered at a place. Numbers beyond the program lead nowhere.
-/
def Entered (program : Array Node) (seen : Std.TreeSet Nat) (s : Nat × Nat) : Prop :=
  s.1 < program.size → stateNumber program s.1 s.2 ∈ seen

def Listed (program : Array Node) (seen : Std.TreeSet Nat) (waiting : List (Nat × Nat))
    (s : Nat × Nat) : Prop :=
  s ∈ waiting ∨ Entered program seen s

/-- No node seen accepts, and where it leads to is listed. -/
def Closed (program : Array Node) (text : Array Char) (seen : Std.TreeSet Nat)
    (waiting : List (Nat × Nat)) : Prop :=
  ∀ q i node, program[q]? = some node → stateNumber program q i ∈ seen →
    node ≠ .accept ∧ ∀ s ∈ node.successors text i, Listed program seen waiting s

theorem mem_insert {seen : Std.TreeSet Nat} {n m : Nat} : m ∈ seen.insert n ↔ m = n ∨ m ∈ seen := by
  rw [Std.TreeSet.mem_insert, Nat.compare_eq_eq, eq_comm]

section

variable {seen : Std.TreeSet Nat} {waiting : List (Nat × Nat)}

theorem Listed.entered {s : Nat × Nat} (h : Listed program seen [] s) : Entered program seen s :=
  h.resolve_left List.not_mem_nil

/-- What waits in front need not wait once it has been entered. -/
theorem Listed.tail {s t : Nat × Nat} (h : Listed program seen (t :: waiting) s)
    (ht : Entered program seen t) : Listed program seen waiting s := by
  rcases h with hmem | hentered
  · rcases List.mem_cons.mp hmem with rfl | hmem
    · exact .inr ht
    · exact .inl hmem
  · exact .inr hentered

/-- Entering what waits in front lists no less. -/
theorem Listed.enter {s : Nat × Nat} {q i : Nat} (h : Listed program seen ((q, i) :: waiting) s)
    (more : List (Nat × Nat)) :
    Listed program (seen.insert (stateNumber program q i)) (more ++ waiting) s := by
  rcases h with hmem | hentered
  · rcases List.mem_cons.mp hmem with rfl | hmem
    · exact .inr fun _ => mem_insert.mpr (.inl rfl)
    · exact .inl (List.mem_append_right more hmem)
  · exact .inr fun hs => mem_insert.mpr (.inr (hentered hs))

/-- Nothing that has been entered leads to acceptance once nothing waits. -/
theorem Closed.not_accepts (h : Closed program text seen []) {q i j : Nat}
    (hs : Entered program seen (q, i)) : ¬ Accepts program text q i j := by
  rintro ⟨steps, haccepts⟩
  induction steps generalizing q i with
  | zero =>
    obtain ⟨hq, -⟩ := haccepts
    have hseen := hs (Array.getElem?_eq_some_iff.mp hq).1
    exact (h q i _ hq hseen).1 rfl
  | succ steps ih =>
    obtain ⟨node, hq, s, hsucc, haccepts⟩ := haccepts
    have hseen := hs (Array.getElem?_eq_some_iff.mp hq).1
    exact ih ((h q i _ hq hseen).2 s hsucc).entered haccepts

theorem Closed.tail {s : Nat × Nat} (h : Closed program text seen (s :: waiting))
    (hs : Entered program seen s) : Closed program text seen waiting := by
  intro q i node hq hseen
  obtain ⟨hnode, hsucc⟩ := h q i node hq hseen
  exact ⟨hnode, fun t ht => (hsucc t ht).tail hs⟩

/-- Entering a node puts where it leads to in line. -/
theorem Closed.enter {q i : Nat} {node : Node} (h : Closed program text seen ((q, i) :: waiting))
    (hq : program[q]? = some node) (hnode : node ≠ .accept) :
    Closed program text (seen.insert (stateNumber program q i))
      (node.successors text i ++ waiting) := by
  intro r k other hr hseen
  rcases mem_insert.mp hseen with heq | hseen
  · obtain ⟨rfl, rfl⟩ := (stateNumber_eq_iff (Array.getElem?_eq_some_iff.mp hr).1
      (Array.getElem?_eq_some_iff.mp hq).1).mp heq
    obtain rfl := Option.some.inj (hq.symm.trans hr)
    exact ⟨hnode, fun s hs => .inl (List.mem_append_left _ hs)⟩
  · obtain ⟨hother, hsucc⟩ := h r k other hr hseen
    exact ⟨hother, fun s hs => (hsucc s hs).enter _⟩

end

def unseen (program : Array Node) (text : Array Char) (seen : Std.TreeSet Nat) : Finset Nat :=
  (Finset.range (program.size * (text.size + 1))).filter (· ∉ seen)

theorem stateNumber_lt {q i : Nat} (hq : q < program.size) (hi : i ≤ text.size) :
    stateNumber program q i < program.size * (text.size + 1) := by
  rw [stateNumber]
  calc q + i * program.size < program.size + i * program.size := Nat.add_lt_add_right hq _
    _ = program.size * (i + 1) := by rw [Nat.mul_succ, Nat.mul_comm, Nat.add_comm]
    _ ≤ program.size * (text.size + 1) := Nat.mul_le_mul_left _ (Nat.succ_le_succ hi)

theorem card_unseen_le (seen : Std.TreeSet Nat) :
    (unseen program text seen).card ≤ program.size * (text.size + 1) := by
  have h := Finset.card_filter_le (Finset.range (program.size * (text.size + 1))) (· ∉ seen)
  rwa [Finset.card_range] at h

/-- Seeing one node more leaves one less unseen. -/
theorem card_unseen_insert {seen : Std.TreeSet Nat} {q i : Nat} (hq : q < program.size)
    (hi : i ≤ text.size) (hseen : stateNumber program q i ∉ seen) :
    (unseen program text (seen.insert (stateNumber program q i))).card <
      (unseen program text seen).card := by
  apply Finset.card_lt_card
  refine ⟨fun n hn => ?_, fun hsub => ?_⟩
  · obtain ⟨hlt, hnot⟩ := Finset.mem_filter.mp hn
    exact Finset.mem_filter.mpr ⟨hlt, fun h => hnot (mem_insert.mpr (.inr h))⟩
  · have hmem : stateNumber program q i ∈ unseen program text seen :=
      Finset.mem_filter.mpr ⟨Finset.mem_range.mpr (stateNumber_lt hq hi), hseen⟩
    exact (Finset.mem_filter.mp (hsub hmem)).2 (mem_insert.mpr (.inl rfl))

theorem length_successors_le (node : Node) (i : Nat) : (node.successors text i).length ≤ 2 := by
  cases node with
  | one set next => simp only [Node.successors]; split <;> simp
  | check a next => simp only [Node.successors]; split <;> simp
  | fork first second => simp [Node.successors]
  | skip next => simp [Node.successors]
  | accept => simp [Node.successors]

/-- An exploration that finds nothing has entered all that waited, and all that this leads to. -/
theorem explore_closed (fuel : Nat) (waiting : List (Nat × Nat)) (seen : Std.TreeSet Nat)
    (hfuel : waiting.length + 2 * (unseen program text seen).card < fuel)
    (hplaces : ∀ s ∈ waiting, s.2 ≤ text.size) (hclosed : Closed program text seen waiting)
    (hnone : (explore program text fuel waiting seen).1 = none) :
    Closed program text (explore program text fuel waiting seen).2 [] ∧
      ∀ s, Listed program seen waiting s →
        Entered program (explore program text fuel waiting seen).2 s := by
  fun_induction explore program text fuel waiting seen with
  | case1 => exact absurd hfuel (Nat.not_lt_zero _)
  | case2 => exact ⟨hclosed, fun s hs => hs.entered⟩
  | case3 fuel q i waiting seen hq ih =>
    have hentered : Entered program seen (q, i) := fun hlt =>
      absurd hlt (Nat.not_lt.mpr (Array.getElem?_eq_none_iff.mp hq))
    obtain ⟨hend, hall⟩ := ih (by rw [List.length_cons] at hfuel; omega)
      (fun s hs => hplaces s (List.mem_cons_of_mem _ hs)) (hclosed.tail hentered) hnone
    exact ⟨hend, fun s hs => hall s (hs.tail hentered)⟩
  | case4 => cases hnone
  | case5 fuel q i waiting seen node hnode hq hseen ih =>
    have hentered : Entered program seen (q, i) := fun _ => hseen
    obtain ⟨hend, hall⟩ := ih (by rw [List.length_cons] at hfuel; omega)
      (fun s hs => hplaces s (List.mem_cons_of_mem _ hs)) (hclosed.tail hentered) hnone
    exact ⟨hend, fun s hs => hall s (hs.tail hentered)⟩
  | case6 fuel q i waiting seen node hnode hq hseen ih =>
    -- Two more wait at most, but the node that leaves the line is no longer unseen, which counts
    -- twice.
    have hi : i ≤ text.size := hplaces (q, i) List.mem_cons_self
    have hless := card_unseen_insert (Array.getElem?_eq_some_iff.mp hq).1 hi hseen
    have htwo : (node.successors text i).length ≤ 2 := length_successors_le node i
    have hmore : ∀ s ∈ node.successors text i ++ waiting, s.2 ≤ text.size := by
      intro s hs
      rcases List.mem_append.mp hs with hs | hs
      · exact (between_of_mem_successors ⟨Nat.zero_le i, hi⟩ node s hs).2
      · exact hplaces s (List.mem_cons_of_mem _ hs)
    obtain ⟨hend, hall⟩ := ih (by rw [List.length_cons] at hfuel; rw [List.length_append]; omega)
      hmore (hclosed.enter hq hnode) hnone
    exact ⟨hend, fun s hs => hall s (hs.enter _)⟩

def starts (program : Array Node) (text : Array Char) (i : Nat) : Set Nat :=
  {k | i ≤ k ∧ k ≤ text.size ∧ ∃ j, Accepts program text 0 k j}

/-- One exploration settles one place. -/
theorem explore_start {i : Nat} (hi : i ≤ text.size) {seen : Std.TreeSet Nat}
    (hclosed : Closed program text seen [])
    (hnone : (explore program text (steps program text) [(0, i)] seen).1 = none) :
    Closed program text (explore program text (steps program text) [(0, i)] seen).2 [] ∧
      ∀ j, ¬ Accepts program text 0 i j := by
  have hfuel : [(0, i)].length + 2 * (unseen program text seen).card < steps program text := by
    have hcard : (unseen program text seen).card ≤ _ := card_unseen_le seen
    rw [steps, List.length_singleton]
    omega
  have hstart : Closed program text seen [(0, i)] := by
    intro q k node hq hseen
    obtain ⟨hnode, hsucc⟩ := hclosed q k node hq hseen
    exact ⟨hnode, fun s hs => .inr (hsucc s hs).entered⟩
  obtain ⟨hend, hall⟩ := explore_closed _ _ seen hfuel (by simpa using hi) hstart hnone
  exact ⟨hend, fun j => hend.not_accepts (hall (0, i) (.inl List.mem_cons_self))⟩

theorem searchFrom_spec (count i : Nat) (seen : Std.TreeSet Nat) (hcount : i + count = text.size)
    (hclosed : Closed program text seen []) :
    Least (starts program text i) ((searchFrom program text count i seen).map Prod.fst) ∧
      ∀ m, searchFrom program text count i seen = some m → Accepts program text 0 m.1 m.2 := by
  fun_induction searchFrom program text count i seen with
  | case1 count i seen finish seen' hfound =>
    obtain ⟨s, hs, haccepts⟩ := accepts_of_explore _ [(0, i)] seen (congrArg Prod.fst hfound)
    obtain rfl := List.mem_singleton.mp hs
    refine ⟨least_some ⟨Nat.le_refl i, by omega, finish, haccepts⟩ fun k hk => hk.1, ?_⟩
    intro m hm
    obtain rfl := Option.some.inj hm
    exact haccepts
  | case2 i seen seen' hnone =>
    obtain ⟨-, hnot⟩ := explore_start (by omega) hclosed (congrArg Prod.fst hnone)
    refine ⟨least_none ?_, by simp⟩
    rintro k ⟨hle, hk, j, haccepts⟩
    obtain rfl : k = i := by omega
    exact hnot j haccepts
  | case3 i seen seen' hnone count ih =>
    obtain ⟨hend, hnot⟩ := explore_start (by omega) hclosed (congrArg Prod.fst hnone)
    rw [hnone] at hend
    obtain ⟨hleast, hmatch⟩ := ih (by omega) hend
    have hset : starts program text i = starts program text (i + 1) := by
      ext k
      refine ⟨fun ⟨hle, hk, j, haccepts⟩ => ⟨?_, hk, j, haccepts⟩,
        fun ⟨hle, hk⟩ => ⟨Nat.le_of_succ_le hle, hk⟩⟩
      refine Nat.lt_of_le_of_ne hle ?_
      rintro rfl
      exact hnot j haccepts
    exact ⟨hset ▸ hleast, hmatch⟩

/-- A search finds the first place at which a match starts. -/
theorem find_least (p : Pattern) (text : Array Char) (i : Nat) :
    Least (starts p.program text i) ((p.find text i).map Prod.fst) ∧
      ∀ m, p.find text i = some m → Accepts p.program text 0 m.1 m.2 := by
  rw [find, search]
  split
  · next hi =>
    refine searchFrom_spec _ i ∅ (by omega) ?_
    intro q k node _ hseen
    exact absurd hseen Std.TreeSet.not_mem_emptyc
  · next hi =>
    refine ⟨least_none ?_, by simp⟩
    rintro k ⟨hle, hk, -⟩
    omega

/-- In a text, a pattern matches at the places that `P` names, up to the place that `finish` says.
None of them is the end of the text. -/
structure Locates (p : Pattern) (text : Array Char) (P : Nat → Prop) (finish : Nat → Nat) :
    Prop where
  accepts : ∀ i j, Accepts p.program text 0 i j ↔ P i ∧ j = finish i
  inside : ∀ i, P i → i < text.size

namespace Locates

variable {p : Pattern} {text : Array Char} {P : Nat → Prop} {finish : Nat → Nat}

theorem starts_eq (h : p.Locates text P finish) (i : Nat) :
    starts p.program text i = {k | i ≤ k ∧ P k} := by
  ext k
  constructor
  · rintro ⟨hle, -, j, haccepts⟩
    exact ⟨hle, ((h.accepts k j).mp haccepts).1⟩
  · rintro ⟨hle, hk⟩
    exact ⟨hle, Nat.le_of_lt (h.inside k hk), finish k, (h.accepts k _).mpr ⟨hk, rfl⟩⟩

/-- A search finds nothing exactly if no place is left. -/
theorem find_eq_none_iff (h : p.Locates text P finish) {i : Nat} :
    p.find text i = none ↔ ∀ k, i ≤ k → ¬ P k := by
  have hleast := (p.find_least text i).1
  rw [h.starts_eq] at hleast
  constructor
  · intro hnone k hle hk
    rw [hnone] at hleast
    exact hleast.not_mem k ⟨hle, hk⟩
  · intro hall
    exact Option.map_eq_none_iff.mp (hleast.unique (least_none fun k hk => hall k hk.1 hk.2))

/-- Otherwise it finds the first of the places. -/
theorem find_eq_some_iff (h : p.Locates text P finish) {i first last : Nat} :
    p.find text i = some (first, last) ↔
      i ≤ first ∧ P first ∧ (∀ k, i ≤ k → P k → first ≤ k) ∧ last = finish first := by
  obtain ⟨hleast, hmatch⟩ := p.find_least text i
  rw [h.starts_eq] at hleast
  constructor
  · intro hsome
    rw [hsome] at hleast
    exact ⟨hleast.1.1, hleast.1.2, fun k hle hk => hleast.2 ⟨hle, hk⟩,
      ((h.accepts first last).mp (hmatch _ hsome)).2⟩
  · rintro ⟨hle, hP, hfirst, rfl⟩
    have hstart := hleast.unique (least_some ⟨hle, hP⟩ fun k hk => hfirst k hk.1 hk.2)
    obtain ⟨⟨start, last⟩, hfound, rfl⟩ := Option.map_eq_some_iff.mp hstart
    obtain ⟨-, rfl⟩ := (h.accepts start last).mp (hmatch _ hfound)
    exact hfound

/-- Nothing is lost by not searching at the end. -/
theorem findBeforeEnd_eq (h : p.Locates text P finish) (i : Nat) :
    p.findBeforeEnd text i = p.find text i := by
  rw [findBeforeEnd]
  split
  · rfl
  · next hi =>
    refine (h.find_eq_none_iff.mpr fun k hle hk => ?_).symm
    have := h.inside k hk
    omega

end Locates

end PartitionScan.Pattern
