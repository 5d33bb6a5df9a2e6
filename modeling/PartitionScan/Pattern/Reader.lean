import PartitionScan.Pattern.ClassReader

/-!
# Reading patterns

The written form of patterns: literals, classes, anchors, groups, alternatives, repetitions and
inline flags. Parts that nest too deep are refused.
-/
namespace PartitionScan.Pattern

/-- A part of a branch that has been read: its expression, how deep it nests, and whether it can be
repeated. Flags are parts too, but cannot. -/
structure Part where
  expr : Expr
  depth : Nat := 0
  repeatable : Bool := true
  deriving DecidableEq, Repr

namespace Part

def depthOf (parts : List Part) : Nat :=
  let deepest := (parts.map depth).foldl max 0
  if 2 ≤ parts.length then deepest + 1 else deepest

/-- A branch, given its parts from last to first. -/
def branch (parts : List Part) : Part :=
  { expr := .sequence (parts.reverse.map expr), depth := depthOf parts }

def choice (branches : List Part) : Part :=
  { expr := .choice (branches.reverse.map expr), depth := depthOf branches }

end Part

def readNumber (flags : Flags) (cs : List Char) : Option (Nat × List Char) :=
  match flags.span Char.isDigit (cs.dropWhile Text.isSpace) with
  | (digits, rest) =>
    let n := digits.foldl (fun n d => n * 10 + (d.toNat - 48)) 0
    if digits.isEmpty || UInt32.size ≤ n then none
    else some (n, (flags.span Text.isSpace rest).2)

/-- A repetition count, after its opening brace: `n`, `n,` or `n,m`. -/
def readCount (flags : Flags) (cs : List Char) : Option ((Nat × Option Nat) × List Char) :=
  match readNumber flags (flags.skip cs) with
  | none => none
  | some (least, '\x7d' :: rest) => some ((least, some least), flags.skip rest)
  | some (least, ',' :: rest) =>
    match flags.skip rest with
    | '\x7d' :: rest => some ((least, none), flags.skip rest)
    | rest =>
      match readNumber flags rest with
      | some (most, '\x7d' :: rest) =>
        if least ≤ most then some ((least, some most), flags.skip rest) else none
      | _ => none
  | some _ => none

/-- Repeats the part read last. A question mark right after the count makes the repetition lazy. -/
def repeatLast (flags : Flags) (count : Nat × Option Nat) (parts : List Part) (cs : List Char) :
    Option (List Part × List Char) :=
  match parts with
  | part :: before =>
    let isLazy := cs.head? == some '?'
    let greedy := isLazy == flags.swapGreed
    let whole : Part :=
      { expr := .repeated greedy count.1 count.2 part.expr, depth := part.depth + 1 }
    if part.repeatable then some (whole :: before, if isLazy then cs.drop 1 else cs) else none
  | [] => none

def isNameChar (c : Char) : Bool :=
  c == '_' || c == '.' || c == '[' || c == ']' || Text.isAlphanumeric c

def readName (names : List String) (cs : List Char) : Option (String × List Char) :=
  let name := cs.takeWhile (· != '>')
  match cs.dropWhile (· != '>'), name with
  | _ :: rest, first :: others =>
    let text := String.ofList name
    if (first == '_' || Text.alphabetic.hasChar first) && others.all isNameChar &&
      !names.contains text then some (text, rest) else none
  | _, _ => none

structure Groups where
  count : Nat := 0
  names : List String := []
  deriving DecidableEq, Repr

inductive GroupStart where
  | numbered (groups : Groups) (rest : List Char)
  | plain (flags : Flags) (rest : List Char)
  | flags (flags : Flags) (rest : List Char)

def Groups.next (groups : Groups) : Groups :=
  { groups with count := groups.count + 1 }

def Groups.nextNamed (groups : Groups) (rest : List Char) : Option GroupStart :=
  (readName groups.names rest).map fun (name, rest) =>
    .numbered { count := groups.count + 1, names := name :: groups.names } rest

/-- The start of a group, after its opening parenthesis. Looking ahead or behind is not possible. -/
def readGroupStart (flags : Flags) (groups : Groups) (cs : List Char) : Option GroupStart :=
  match flags.skip cs with
  | '?' :: '=' :: _ => none
  | '?' :: '!' :: _ => none
  | '?' :: '<' :: '=' :: _ => none
  | '?' :: '<' :: '!' :: _ => none
  | '?' :: 'P' :: '<' :: rest => groups.nextNamed rest
  | '?' :: '<' :: rest => groups.nextNamed rest
  | '?' :: ')' :: _ => none
  | '?' :: rest =>
    match flags.read true [] rest with
    | some (flags, ':' :: rest) => some (.plain flags rest)
    | some (flags, _ :: rest) => some (.flags flags rest)
    | _ => none
  | rest => some (.numbered groups.next rest)

def readPlain (flags : Flags) (c : Char) : Option Part :=
  if c == '.' then flags.dot.map fun s => { expr := .ofSet s }
  else if c == '^' then some { expr := .anchor flags.caret }
  else if c == '$' then some { expr := .anchor flags.dollar }
  else some { expr := flags.literal c }

def Escape.toExpr (flags : Flags) : Escape → Expr
  | .char c => flags.literal c
  | .set s => .ofSet s
  | .anchor a => .anchor a

/-- Reads the rest of a group, or of the whole pattern, and gives what it is, what follows it and
the groups opened by then. `branches` and `parts` hold what has been read, from last to first.
Groups inside of it may nest `level` deep. -/
def readGroup (inGroup : Bool) : Nat → Nat → Flags → Groups → List Part → List Part → List Char →
    Option (Part × List Char × Groups)
  | 0, _, _, _, _, _, _ => none
  | fuel + 1, level, flags, groups, branches, parts, cs =>
    let finish (rest : List Char) :=
      some (Part.choice (Part.branch parts :: branches), rest, groups)
    let add (part : Part) (rest : List Char) :=
      readGroup inGroup fuel level flags groups branches (part :: parts) rest
    let repeated (count : Nat × Option Nat) (rest : List Char) :=
      match repeatLast flags count parts rest with
      | some (parts, rest) => readGroup inGroup fuel level flags groups branches parts rest
      | none => none
    match flags.skip cs with
    | [] => if inGroup then none else finish []
    | ')' :: rest => if inGroup then finish rest else none
    | '|' :: rest =>
      readGroup inGroup fuel level flags groups (Part.branch parts :: branches) [] rest
    | '*' :: rest => repeated (0, none) rest
    | '+' :: rest => repeated (1, none) rest
    | '?' :: rest => repeated (0, some 1) rest
    | '\x7b' :: rest =>
      match readCount flags rest with
      | some (count, rest) => repeated count rest
      | none => none
    | '[' :: rest =>
      match readBracketed flags fuel rest with
      | some (s, rest) => add { expr := .ofSet s.set, depth := s.depth } rest
      | none => none
    | '(' :: rest =>
      match readGroupStart flags groups rest, level with
      | some (.numbered opened rest), level + 1 =>
        match readGroup true fuel level flags opened [] [] rest with
        | some (inner, rest, groups) =>
          let part : Part := { expr := .group opened.count inner.expr, depth := inner.depth + 1 }
          readGroup inGroup fuel (level + 1) flags groups branches (part :: parts) rest
        | none => none
      | some (.plain innerFlags rest), level + 1 =>
        match readGroup true fuel level innerFlags groups [] [] rest with
        | some (inner, rest, groups) =>
          let part : Part := { expr := inner.expr, depth := inner.depth + 1 }
          readGroup inGroup fuel (level + 1) flags groups branches (part :: parts) rest
        | none => none
      | some (.flags flags rest), level =>
        let part : Part := { expr := .empty, repeatable := false }
        readGroup inGroup fuel level flags groups branches (part :: parts) rest
      | _, _ => none
    | '\\' :: rest =>
      match readEscape flags rest with
      | some (escape, rest) => add { expr := escape.toExpr flags } rest
      | none => none
    | c :: rest =>
      match readPlain flags c with
      | some part => add part rest
      | none => none

/-- The expression that a pattern writes, if it is well formed and does not nest too deep. -/
def readExpr (cs : List Char) : Option Expr :=
  match readGroup false (cs.length + 1) nestLimit {} {} [] [] cs with
  | some (whole, _, _) => if whole.depth ≤ nestLimit then some whole.expr else none
  | none => none

end PartitionScan.Pattern
