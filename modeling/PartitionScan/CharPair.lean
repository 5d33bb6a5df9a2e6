/-!
# Pairs of characters

An opening and a closing character. Quotes are pairs that open and close alike.
-/
namespace PartitionScan

structure CharPair where
  opening : Char
  closing : Char
  deriving DecidableEq, Repr, Inhabited

namespace CharPair

def isSymmetric (p : CharPair) : Bool :=
  p.opening == p.closing

def chars (p : CharPair) : List Char :=
  [p.opening, p.closing]

/-- The first pair with a character on either side. -/
def find? (pairs : List CharPair) (c : Char) : Option CharPair :=
  pairs.find? fun p => p.opening == c || p.closing == c

def parentheses : CharPair := ⟨'(', ')'⟩

def brackets : CharPair := ⟨'[', ']'⟩

def braces : CharPair := ⟨'\x7b', '\x7d'⟩

/-- The nesting depth after a character, where `deeper` is the one that nests. -/
def depthAfter (p : CharPair) (deeper : Char) (depth : Nat) (c : Char) : Nat :=
  if c = deeper ∧ ¬ p.isSymmetric then depth + 1 else depth - 1

end CharPair

end PartitionScan
