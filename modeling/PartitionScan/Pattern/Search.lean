import Std.Data.TreeSet
import PartitionScan.Pattern.Program

/-!
# Searching with programs

The nodes and places that a start leads to are explored depth first, the most wanted first, and none
is entered twice: one that did not lead to a match the first time does not do so later. The start
moves from left to right, so the leftmost match wins, and of the matches that start there the most
wanted one.
-/
namespace PartitionScan.Pattern

def stateNumber (program : Array Node) (q i : Nat) : Nat :=
  q + i * program.size

/-- Nodes of the program and places are told apart by their numbers. -/
theorem stateNumber_eq_iff {program : Array Node} {q r i j : Nat} (hq : q < program.size)
    (hr : r < program.size) :
    stateNumber program q i = stateNumber program r j ↔ q = r ∧ i = j := by
  constructor
  · intro h
    have hmod := congrArg (· % program.size) h
    simp only [stateNumber, Nat.add_mul_mod_self_right, Nat.mod_eq_of_lt hq,
      Nat.mod_eq_of_lt hr] at hmod
    have hdiv := congrArg (· / program.size) h
    have hpos : 0 < program.size := by omega
    simp only [stateNumber, Nat.add_mul_div_right _ _ hpos, Nat.div_eq_of_lt hq,
      Nat.div_eq_of_lt hr, Nat.zero_add] at hdiv
    exact ⟨hmod, hdiv⟩
  · rintro ⟨rfl, rfl⟩
    rfl

/-- Explores the nodes and places that wait, leaving out those seen already. Gives the place where
the first match ends and what has been seen. -/
def explore (program : Array Node) (text : Array Char) :
    Nat → List (Nat × Nat) → Std.TreeSet Nat → Option Nat × Std.TreeSet Nat
  | 0, _, seen => (none, seen)
  | _ + 1, [], seen => (none, seen)
  | fuel + 1, (q, i) :: waiting, seen =>
    match program[q]? with
    | none => explore program text fuel waiting seen
    | some .accept => (some i, seen)
    | some node =>
      if seen.contains (stateNumber program q i) then explore program text fuel waiting seen
      else
        explore program text fuel (node.successors text i ++ waiting)
          (seen.insert (stateNumber program q i))

def steps (program : Array Node) (text : Array Char) : Nat :=
  2 * (program.size * (text.size + 1)) + 2

/-- The match that starts at the first possible of the `count + 1` places from `i` on. -/
def searchFrom (program : Array Node) (text : Array Char) :
    Nat → Nat → Std.TreeSet Nat → Option (Nat × Nat)
  | count, i, seen =>
    match explore program text (steps program text) [(0, i)] seen with
    | (some finish, _) => some (i, finish)
    | (none, seen) =>
      match count with
      | 0 => none
      | count + 1 => searchFrom program text count (i + 1) seen

def search (program : Array Node) (text : Array Char) (start : Nat) : Option (Nat × Nat) :=
  if start ≤ text.size then searchFrom program text (text.size - start) start ∅ else none

end PartitionScan.Pattern
