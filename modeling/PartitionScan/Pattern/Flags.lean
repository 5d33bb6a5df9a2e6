import PartitionScan.Pattern.Expr
import PartitionScan.Text.Fold
import PartitionScan.Text.Letters

/-!
# Flags of patterns

Inline flags change how the rest of a group is read.
-/
namespace PartitionScan.Pattern

open Text (Ranges)

structure Flags where
  anyCase : Bool := false
  multiLine : Bool := false
  dotAll : Bool := false
  swapGreed : Bool := false
  crlf : Bool := false
  verbose : Bool := false
  asciiOnly : Bool := false
  deriving DecidableEq, Repr

namespace Flags

def set (flags : Flags) (letter : Char) (on : Bool) : Option Flags :=
  match letter with
  | 'i' => some { flags with anyCase := on }
  | 'm' => some { flags with multiLine := on }
  | 's' => some { flags with dotAll := on }
  | 'U' => some { flags with swapGreed := on }
  | 'R' => some { flags with crlf := on }
  | 'x' => some { flags with verbose := on }
  | 'u' => some { flags with asciiOnly := !on }
  | _ => none

/-- Flag letters up to the colon or parenthesis that ends them. No letter comes twice, a minus turns
the letters after it off, and there is at most one, which is not the last. -/
def read (flags : Flags) (on : Bool) (seen : List Char) : List Char → Option (Flags × List Char)
  | [] => none
  | c :: rest =>
    if c == ':' || c == ')' then
      if seen.head? == some '-' then none else some (flags, c :: rest)
    else if seen.contains c then none
    else if c == '-' then flags.read false ('-' :: seen) rest
    else (flags.set c on).bind fun flags => flags.read on (c :: seen) rest

def shifted (set : Ranges) (first last : Nat) (move : Nat → Nat) : Ranges :=
  (Ranges.inter set [(first, last)]).map fun (a, b) => (move a, move b)

def asciiAnyCase (set : Ranges) : Ranges :=
  .union set (.union (shifted set 0x41 0x5A (· + 32)) (shifted set 0x61 0x7A (· - 32)))

/-- A set as it counts under the flags: disregarding case, it takes in all case variants. -/
def close (flags : Flags) (set : Ranges) : Ranges :=
  if !flags.anyCase then set else if flags.asciiOnly then asciiAnyCase set else set.anyCase

/-- The characters outside of a set. There is no such set of ASCII characters alone. -/
def negate (flags : Flags) (negated : Bool) (set : Ranges) : Option Ranges :=
  if !negated then some set else if flags.asciiOnly then none else some set.compl

def dot (flags : Flags) : Option Ranges :=
  if flags.asciiOnly then none
  else if flags.dotAll then some Ranges.all
  else if flags.crlf then some (Ranges.compl (Ranges.ofCodePoints [0x0A, 0x0D]))
  else some (Ranges.compl (Ranges.single 0x0A))

def caret (flags : Flags) : Anchor :=
  if !flags.multiLine then .textStart
  else if flags.crlf then .lineStartCrlf
  else .lineStart

def dollar (flags : Flags) : Anchor :=
  if !flags.multiLine then .textEnd
  else if flags.crlf then .lineEndCrlf
  else .lineEnd

def literal (flags : Flags) (c : Char) : Expr :=
  .ofSet (flags.close (Ranges.single c.toNat))

def dropBlanks (inComment : Bool) : List Char → List Char
  | [] => []
  | c :: rest =>
    if inComment then dropBlanks (c != '\n') rest
    else if Text.isSpace c then dropBlanks false rest
    else if c == '#' then dropBlanks true rest
    else c :: rest

def skip (flags : Flags) (cs : List Char) : List Char :=
  if flags.verbose then dropBlanks false cs else cs

/-- The characters that pass a test, up to the first that does not, leaving out what the flags allow
after each of them. -/
def spanWith (flags : Flags) (test : Char → Bool) : Nat → List Char → List Char × List Char
  | 0, cs => ([], cs)
  | _ + 1, [] => ([], [])
  | fuel + 1, c :: cs =>
    if test c then
      let (taken, rest) := spanWith flags test fuel (flags.skip cs)
      (c :: taken, rest)
    else ([], c :: cs)

def span (flags : Flags) (test : Char → Bool) (cs : List Char) : List Char × List Char :=
  flags.spanWith test cs.length cs

end Flags

end PartitionScan.Pattern
