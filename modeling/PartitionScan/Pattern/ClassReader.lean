import PartitionScan.Pattern.Escape

/-!
# Reading bracketed classes

A class in brackets is a union of characters, ranges, escapes and other classes; intersections and
differences of such unions are taken from left to right.
-/
namespace PartitionScan.Pattern

open Text (Ranges)

def nestLimit : Nat :=
  250

def asciiClass : String → Option Ranges
  | "alnum" => some (.ofText "30-39 41-5A 61-7A")
  | "alpha" => some (.ofText "41-5A 61-7A")
  | "ascii" => some (.ofText "0-7F")
  | "blank" => some (.ofText "9 20")
  | "cntrl" => some (.ofText "0-1F 7F")
  | "digit" => some (.ofText "30-39")
  | "graph" => some (.ofText "21-7E")
  | "lower" => some (.ofText "61-7A")
  | "print" => some (.ofText "20-7E")
  | "punct" => some (.ofText "21-2F 3A-40 5B-60 7B-7E")
  | "space" => some (.ofText "9-D 20")
  | "upper" => some (.ofText "41-5A")
  | "word" => some (.ofText "30-39 41-5A 5F 61-7A")
  | "xdigit" => some (.ofText "30-39 41-46 61-66")
  | _ => none

/-- A named class, after its opening bracket: a colon, the name, a colon and a bracket. The flag
says whether it is negated. -/
def readNamed (cs : List Char) : Option (Bool × Ranges × List Char) :=
  match cs with
  | ':' :: rest =>
    let negated := rest.head? == some '^'
    let rest := if negated then rest.drop 1 else rest
    match rest.dropWhile (· != ':') with
    | ':' :: ']' :: after =>
      (asciiClass (String.ofList (rest.takeWhile (· != ':')))).map fun s => (negated, s, after)
    | _ => none
  | _ => none

/-- A character or escape of a class. Where only ASCII counts, other characters are malformed. -/
def readMember (flags : Flags) (cs : List Char) : Option (Escape × List Char) :=
  let member :=
    match cs with
    | [] => none
    | '\\' :: rest => readEscape flags rest
    | c :: rest => some (.char c, rest)
  match member with
  | some (.char c, rest) =>
    if flags.asciiOnly && 0x7F < c.toNat then none else some (.char c, rest)
  | some (.set s, rest) => some (.set s, rest)
  | _ => none

def Escape.toSet : Escape → Ranges
  | .char c => Ranges.single c.toNat
  | .set s => s
  | .anchor _ => []

/-- The character after a minus that decides whether it makes a range: the next one that is no
blank, if blanks do not count. A number sign hides blanks but not the rest of its comment. -/
def afterMinus (flags : Flags) (cs : List Char) : Option Char :=
  let shown :=
    match cs.dropWhile Text.isSpace with
    | '#' :: rest => rest.dropWhile Text.isSpace
    | rest => rest
  if flags.verbose && !shown.isEmpty then shown.head? else cs.head?

/-- A member or a range. A minus before the closing bracket or before another minus makes none. -/
def readItem (flags : Flags) (cs : List Char) : Option (Ranges × List Char) :=
  match readMember flags cs with
  | none => none
  | some (first, rest) =>
    match flags.skip rest with
    | [] => none
    | '-' :: more =>
      if afterMinus flags more == some ']' || afterMinus flags more == some '-' then
        some (first.toSet, '-' :: more)
      else
        match first, readMember flags (flags.skip more) with
        | .char a, some (.char b, rest) => if a ≤ b then some ([(a.toNat, b.toNat)], rest) else none
        | _, _ => none
    | rest => some (first.toSet, rest)

structure Operand where
  set : Ranges
  depth : Nat
  deriving DecidableEq, Repr

structure Items where
  set : Ranges := []
  count : Nat := 0
  depth : Nat := 0
  deriving DecidableEq, Repr

def Items.add (items : Items) (set : Ranges) (depth : Nat) : Items :=
  { set := .union items.set set, count := items.count + 1, depth := max items.depth depth }

/-- The union of the items. It nests deeper than they if there are several. -/
def Items.toOperand (items : Items) : Operand :=
  { set := items.set, depth := if 2 ≤ items.count then items.depth + 1 else items.depth }

abbrev SetOperation := Ranges → Ranges → Ranges

/-- The operation that waits for its right operand, applied to the items read since. -/
def complete (flags : Flags) (waiting : Option (SetOperation × Operand)) (items : Items) :
    Operand :=
  let right := items.toOperand
  match waiting with
  | none => right
  | some (op, left) =>
    { set := op (flags.close left.set) (flags.close right.set)
      depth := max left.depth right.depth + 1 }

/-- The minuses, or else the closing bracket, that stand for themselves at the start of a class. -/
def readLeading (flags : Flags) (cs : List Char) : Items × List Char :=
  match flags.span (· == '-') (flags.skip cs) with
  | ([], ']' :: rest) => (({} : Items).add (Ranges.single 0x5D) 0, rest)
  | (minuses, rest) =>
    (minuses.foldl (fun items _ => items.add (Ranges.single 0x2D) 0) {}, rest)

def readOpening (flags : Flags) (cs : List Char) : Bool × Items × List Char :=
  match flags.skip cs with
  | '^' :: rest => (true, readLeading flags rest)
  | rest => (false, readLeading flags rest)

/-- The rest of a class up to its closing bracket, and what follows. Classes inside of it may nest
`level` deep. -/
def readClass (flags : Flags) : Nat → Nat → Option (SetOperation × Operand) → Items → List Char →
    Option (Operand × List Char)
  | 0, _, _, _, _ => none
  | fuel + 1, level, waiting, items, cs =>
    let operate (op : SetOperation) (rest : List Char) :=
      readClass flags fuel level (some (op, complete flags waiting items)) {} rest
    match flags.skip cs with
    | [] => none
    | ']' :: rest => some (complete flags waiting items, rest)
    | '[' :: rest =>
      match readNamed rest with
      | some (negated, s, rest) =>
        match flags.negate negated (flags.close s) with
        | some s => readClass flags fuel level waiting (items.add s 0) rest
        | none => none
      | none =>
        match level with
        | 0 => none
        | level + 1 =>
          let (negated, leading, rest) := readOpening flags rest
          match readClass flags fuel level none leading rest with
          | none => none
          | some (inner, rest) =>
            match flags.negate negated (flags.close inner.set) with
            | some s =>
              readClass flags fuel (level + 1) waiting (items.add s (inner.depth + 1)) rest
            | none => none
    | '&' :: '&' :: rest => operate .inter rest
    | '-' :: '-' :: rest => operate .diff rest
    | '~' :: '~' :: rest => operate .symmDiff rest
    | rest =>
      match readItem flags rest with
      | none => none
      | some (s, rest) => readClass flags fuel level waiting (items.add s 0) rest

/-- A bracketed class, after its opening bracket. The fuel has to exceed the number of characters.
-/
def readBracketed (flags : Flags) (fuel : Nat) (cs : List Char) : Option (Operand × List Char) :=
  let (negated, leading, rest) := readOpening flags cs
  match readClass flags fuel nestLimit none leading rest with
  | none => none
  | some (inner, rest) =>
    (flags.negate negated (flags.close inner.set)).map fun s =>
      ({ set := s, depth := inner.depth + 1 }, rest)

end PartitionScan.Pattern
