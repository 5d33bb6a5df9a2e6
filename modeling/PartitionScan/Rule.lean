import PartitionScan.Pattern

/-!
# Rules

A line rule gives the matches of one pattern a kind. A block rule describes a construct that may go
on over several lines: where it opens, where it closes, and which character protects the close.
Rules look for matches in the text of one line, at places counted in characters.
-/
namespace PartitionScan

def compileFor (rule source : String) : Except Fault Pattern :=
  (Pattern.compile source).mapError (Fault.badPattern rule)

/-- The leftmost match from place `i` on; nothing is found at the end of the text. -/
def Pattern.findBeforeEnd (p : Pattern) (text : Array Char) (i : Nat) : Option (Nat × Nat) :=
  if i < text.size then p.find text i else none

/-- Matches of the pattern are spans of a kind. Of several rules, the one with the higher priority
is tried first. -/
structure LineRule where
  name : String
  pattern : Pattern
  kind : String
  priority : Int
  deriving DecidableEq, Repr, Inhabited

def LineRule.make (name pattern kind : String) (priority : Int) : Except Fault LineRule :=
  (compileFor name pattern).map fun p => { name, pattern := p, kind, priority }

def LineRule.find (r : LineRule) (text : Array Char) (i : Nat) : Option (Nat × Nat) :=
  r.pattern.findBeforeEnd text i

/-- A construct between an opening and a closing match. A line that ends inside it is left in the
state `id`. -/
structure BlockRule where
  name : String
  opening : Pattern
  closing : Pattern
  kind : String
  escape : Option Char
  id : Nat
  deriving DecidableEq, Repr, Inhabited

namespace BlockRule

def make (name opening closing kind : String) (id : Nat) (escape : Option Char) :
    Except Fault BlockRule := do
  let opening ← compileFor name opening
  let closing ← compileFor name closing
  return { name, opening, closing, kind, escape, id }

def findStart (r : BlockRule) (text : Array Char) (i : Nat) : Option (Nat × Nat) :=
  r.opening.findBeforeEnd text i

/-- How many escapes stand side by side just before place `i`, not looking before `start`. -/
def escapesBefore (text : Array Char) (escape : Char) (start : Nat) : Nat → Nat
  | 0 => 0
  | i + 1 =>
    if start ≤ i ∧ text[i]? = some escape then escapesBefore text escape start i + 1 else 0

/-- The end of the first match from place `i` on that an even number of escapes precedes. -/
def findUnescaped (p : Pattern) (text : Array Char) (escape : Char) (start i : Nat) : Option Nat :=
  if i < text.size then
    match p.find text i with
    | none => none
    | some (first, finish) =>
      if escapesBefore text escape start first % 2 = 0 then some finish
      else findUnescaped p text escape start (max finish (i + 1))
  else none
termination_by text.size - i

def findEnd (r : BlockRule) (text : Array Char) (i : Nat) : Option Nat :=
  match r.escape with
  | some escape => findUnescaped r.closing text escape i i
  | none => (r.closing.findBeforeEnd text i).map (·.2)

end BlockRule

end PartitionScan
