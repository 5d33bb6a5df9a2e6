import PartitionScan.Pattern.ByteForm
import Std.Data.TreeMap

/-!
# Layouts of automata

A layout lists what an automaton over bytes is made of, in the order in which its states are
numbered. Its size is found by numbering them. States for sets of characters are shared as far as
they are found again: a state is kept in a slot that depends on what it does, also on the numbers of
the states it leads to, and a later state may take over the slot.
-/
namespace PartitionScan.Pattern

/-- How large an automaton is: the number of its states, and the bytes that their links take up. -/
structure Size where
  states : Nat := 0
  links : Nat := 0
  deriving DecidableEq, Repr, Inhabited

namespace Size

def add (a b : Size) : Size :=
  { states := a.states + b.states, links := a.links + b.links }

def space (s : Size) : Nat :=
  32 * s.states + s.links

def limit : Nat :=
  10 * 1024 * 1024

def exceeds (s : Size) : Bool :=
  limit < s.space

def iterate (step : Size → Size) : Nat → Size → Size
  | 0, s => s
  | count + 1, s => if s.exceeds then s else iterate step count (step s)

end Size

/-- The states made so far, and those that can be found again: for each slot what the latest state
in it does, and its number. -/
structure Pool where
  size : Size
  kept : Std.TreeMap Nat (List Nat × Nat) := {}

namespace Pool

def slot (slots : UInt64) (key : List Nat) : Nat :=
  (key.foldl (fun h n => (h ^^^ n.toUInt64) * 1099511628211) 14695981039346656037 % slots).toNat

/-- The number of a state that does what the key says. It is made unless it is found in its slot. -/
def state (slots : UInt64) (key : List Nat) (links : Nat) (pool : Pool) : Nat × Pool :=
  let place := slot slots key
  let number := pool.size.states
  let made : Pool :=
    { size := pool.size.add { states := 1, links }, kept := pool.kept.insert place (key, number) }
  match pool.kept[place]? with
  | some (other, earlier) => if other = key then (earlier, pool) else (number, made)
  | none => (number, made)

/-- The state for a byte sequence read backward. It leads through the sequence to the state `last`.
-/
def chain (last : Nat) (pool : Pool) : ByteSequence → Nat × Pool
  | [] => (last, pool)
  | (low, high) :: rest =>
    let (number, pool) := pool.state 1000 [last, low, high] 0
    pool.chain number rest

def tree (last : Nat) : Nat → List ByteSequence → Pool → Nat × Pool
  | 0, _, pool => (last, pool)
  | depth + 1, sequences, pool =>
    let parts := sequences.splitBy fun a b => a.head? == b.head?
    let (key, pool) := parts.foldl (fun (key, pool) part =>
      match part with
      | ((low, high) :: next :: more) :: rest =>
        let (below, pool) := tree last depth ((next :: more) :: rest.map (·.drop 1)) pool
        (below :: high :: low :: key, pool)
      | [(low, high)] :: _ => (last :: high :: low :: key, pool)
      | _ => (key, pool)) ([], pool)
    pool.state 10000 key.reverse (8 * parts.length)

end Pool

/-- What an automaton is made of: states that do not depend on others, a set of characters, and
parts one after the other or several times. -/
inductive Layout where
  | fixed (states links : Nat)
  | set (sequences : List ByteSequence)
  | both (first second : Layout)
  | again (count : Nat) (part : Layout)
  deriving Repr, Inhabited

namespace Layout

def addSet (backward : Bool) (sequences : List ByteSequence) (size : Size) : Size :=
  if backward then
    let pool : Pool := { size := size.add { states := 2, links := 4 * sequences.length } }
    (sequences.foldl (fun pool s => (pool.chain (size.states + 1) s).2) pool).size
  else
    let pool : Pool := { size := size.add { states := 1 } }
    (pool.tree size.states 4 sequences).2.size

/-- The size after adding the states of a layout. Beyond the limit it need not be exact. -/
def addTo (backward : Bool) : Layout → Size → Size
  | fixed states links, size => size.add { states, links }
  | set sequences, size => addSet backward sequences size
  | both first second, size => second.addTo backward (first.addTo backward size)
  | again count part, size => size.iterate (part.addTo backward) count

end Layout

def splitAtEnds : List (List Nat) → List (List (List Nat))
  | [] => [[]]
  | [] :: words => [] :: splitAtEnds words
  | word :: words =>
    match splitAtEnds words with
    | [] => [[word]]
    | part :: parts => (word :: part) :: parts

/-- Words that end here at the start of a list count once. -/
def dropRepeatedEnds : List (List Nat) → List (List Nat)
  | [] :: [] :: words => dropRepeatedEnds ([] :: words)
  | words => words

/-- The size of a tree of words, in which each node lists its continuations and ends in order. -/
def wordTreeSize : Nat → List (List Nat) → Size
  | 0, _ => {}
  | fuel + 1, words =>
    let parts := splitAtEnds (dropRepeatedEnds words)
    let filled := parts.filter fun part => !part.isEmpty
    let own : Size := { states := 1, links := 4 * (filled.length + (parts.length - 1)) }
    filled.foldl (fun size part =>
      let heads := (part.filterMap List.head?).eraseDups
      let continued : Size :=
        { states := 1, links := if heads.length == 1 then 0 else 8 * heads.length }
      heads.foldl (fun size head =>
        let rest := (part.filter fun word => word.head? == some head).map (·.drop 1)
        if rest.all List.isEmpty then size else size.add (wordTreeSize fuel rest))
        (size.add continued)) own

end PartitionScan.Pattern
