import PartitionScan.Text.Hex

/-!
# Sets of code points

A set of characters is a list of closed ranges of code points, ascending and apart from each other,
and membership walks the list until it has passed the code point. Unions, complements and the other
operations keep that form.
-/
namespace PartitionScan.Text

/-- Closed ranges of code points, ascending and apart from each other. -/
abbrev Ranges := List (Nat × Nat)

namespace Ranges

def has (n : Nat) : Ranges → Bool
  | [] => false
  | (first, last) :: rest => if n < first then false else n ≤ last || Ranges.has n rest

def hasChar (ranges : Ranges) (c : Char) : Bool :=
  Ranges.has c.toNat ranges

@[simp] theorem has_nil (n : Nat) : Ranges.has n [] = false := rfl

theorem has_cons (n first last : Nat) (rest : Ranges) :
    Ranges.has n ((first, last) :: rest) =
      if n < first then false else n ≤ last || Ranges.has n rest := rfl

def single (n : Nat) : Ranges :=
  [(n, n)]

@[simp] theorem has_single (n m : Nat) : Ranges.has m (single n) = (m == n) := by
  rcases Nat.lt_trichotomy m n with h | h | h
  · simp [single, has, h, Nat.ne_of_lt h]
  · simp [single, has, h]
  · simp [single, has, Nat.not_lt_of_gt h, Nat.not_le_of_gt h, Nat.ne_of_gt h]

def all : Ranges :=
  [(0, 0x10FFFF)]

def merge : Ranges → Ranges → Ranges
  | [], b => b
  | a, [] => a
  | r :: a, s :: b => if r.1 ≤ s.1 then r :: merge a (s :: b) else s :: merge (r :: a) b

/-- Joins ranges that overlap or touch; `first` and `last` bound the range being grown. -/
def joinFrom (first last : Nat) : Ranges → Ranges
  | [] => [(first, last)]
  | r :: rest =>
    if r.1 ≤ last + 1 then joinFrom first (max last r.2) rest
    else (first, last) :: joinFrom r.1 r.2 rest

def join : Ranges → Ranges
  | [] => []
  | r :: rest => joinFrom r.1 r.2 rest

def union (a b : Ranges) : Ranges :=
  join (merge a b)

/-- The characters from `first` to `last`, of which surrogates are none. -/
def between (first last : Nat) : Ranges :=
  let first := if 0xD800 ≤ first && first ≤ 0xDFFF then 0xE000 else first
  let last := if 0xD800 ≤ last && last ≤ 0xDFFF then 0xD7FF else last
  if first ≤ last then [(first, last)] else []

def gapsFrom (n : Nat) : Ranges → Ranges
  | [] => if n ≤ 0x10FFFF then between n 0x10FFFF else []
  | r :: rest => (if n < r.1 then between n (r.1 - 1) else []) ++ gapsFrom (r.2 + 1) rest

def compl (a : Ranges) : Ranges :=
  gapsFrom 0 a

def inter (a b : Ranges) : Ranges :=
  compl (union (compl a) (compl b))

def diff (a b : Ranges) : Ranges :=
  inter a (compl b)

def symmDiff (a b : Ranges) : Ranges :=
  diff (union a b) (inter a b)

def ofCodePoints (ns : List Nat) : Ranges :=
  join ((ns.mergeSort).map fun n => (n, n))

/-- Reads ranges in hexadecimal: blanks and line breaks stand between ranges, a minus between the
ends of a range. `first` is the code point before a minus, and `last` the number being read. -/
def readFrom (first last : Option Nat) : List Char → Ranges
  | [] => (last.map fun n => (first.getD n, n)).toList
  | c :: rest =>
    if c == ' ' || c == '\n' then
      (last.map fun n => (first.getD n, n)).toList ++ readFrom none none rest
    else if c == '-' then readFrom last none rest
    else readFrom first (some (last.getD 0 * 16 + hexValue c)) rest

def ofText (text : String) : Ranges :=
  readFrom none none text.toList

end Ranges

end PartitionScan.Text
