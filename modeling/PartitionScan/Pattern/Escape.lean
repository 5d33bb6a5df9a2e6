import PartitionScan.Pattern.Flags

/-!
# Escapes in patterns

What a backslash and the characters after it stand for. A reader takes the characters that are
left and gives what it read together with the rest, or nothing if they are malformed.
-/
namespace PartitionScan.Pattern

open Text (Ranges)

inductive Escape where
  | char (c : Char)
  | set (s : Ranges)
  | anchor (a : Anchor)
  deriving DecidableEq, Repr

/-- Characters that a backslash leaves as they are: all of ASCII but letters, digits and the angle
brackets. -/
def isEscapable (c : Char) : Bool :=
  c.toNat < 128 && !c.isAlphanum && c != '<' && c != '>'

def readDigits (flags : Flags) : Nat → List Char → Option (List Char × List Char)
  | 0, cs => some ([], cs)
  | width + 1, cs =>
    match flags.skip cs with
    | [] => none
    | c :: rest =>
      if Text.isHexDigit c then
        (readDigits flags width rest).map fun (digits, rest) => (c :: digits, rest)
      else none

/-- A code point: `width` hexadecimal digits, or any number of them in braces. Two digits without
braces write a byte, which has to be an ASCII character where only those count. -/
def readCodePoint (flags : Flags) (width : Nat) (cs : List Char) : Option (Char × List Char) :=
  match flags.skip cs with
  | '\x7b' :: rest =>
    match flags.span (· != '\x7d') (flags.skip rest) with
    | (digits, _ :: after) => (Text.charOfHex digits).map (·, after)
    | (_, []) => none
  | cs =>
    match readDigits flags width cs with
    | none => none
    | some (digits, rest) =>
      match Text.charOfHex digits with
      | none => none
      | some c => if flags.asciiOnly && width == 2 && 0x7F < c.toNat then none else some (c, rest)

def readProperty (flags : Flags) (negated : Bool) (cs : List Char) : Option (Escape × List Char) :=
  let found (name rest : List Char) :=
    if flags.asciiOnly then none
    else
      (property? name).bind fun (s, differs) =>
        (flags.negate (negated != differs) (flags.close s)).map fun s => (Escape.set s, rest)
  match flags.skip cs with
  | [] => none
  | '\x7b' :: rest =>
    match flags.span (· != '\x7d') (flags.skip rest) with
    | (name, _ :: after) => found name after
    | (_, []) => none
  | c :: rest => found [c] rest

def namedEdge : String → Option WordEdge
  | "start" => some .start
  | "end" => some .finish
  | "start-half" => some .startHalf
  | "end-half" => some .endHalf
  | _ => none

/-- A word boundary, plain or with a name in braces. Braces that cannot hold a name are left for a
repetition count. -/
def readBoundary (flags : Flags) (cs : List Char) : Option (WordEdge × List Char) :=
  match cs with
  | '\x7b' :: rest =>
    match flags.span (fun c => c.isAlpha || c == '-') (flags.skip rest) with
    | ([], []) => none
    | ([], _) => some (.boundary, cs)
    | (name, '\x7d' :: after) => (namedEdge (String.ofList name)).map (·, after)
    | _ => none
  | _ => some (.boundary, cs)

def basicSet (flags : Flags) (letter : Char) : Ranges :=
  if letter == 'd' then if flags.asciiOnly then .ofText "30-39" else digitChars
  else if letter == 's' then if flags.asciiOnly then .ofText "9-D 20" else spaceChars
  else if flags.asciiOnly then .ofText "30-39 41-5A 5F 61-7A"
  else wordChars

def readEscape (flags : Flags) : List Char → Option (Escape × List Char)
  | [] => none
  | c :: rest =>
    match c with
    | 'x' => (readCodePoint flags 2 rest).map fun (c, rest) => (.char c, rest)
    | 'u' => (readCodePoint flags 4 rest).map fun (c, rest) => (.char c, rest)
    | 'U' => (readCodePoint flags 8 rest).map fun (c, rest) => (.char c, rest)
    | 'p' => readProperty flags false rest
    | 'P' => readProperty flags true rest
    | 'd' | 's' | 'w' => some (.set (basicSet flags c), rest)
    | 'D' | 'S' | 'W' =>
      (flags.negate true (basicSet flags c.toLower)).map fun s => (.set s, rest)
    | 'a' => some (.char '\x07', rest)
    | 'f' => some (.char '\x0c', rest)
    | 't' => some (.char '\t', rest)
    | 'n' => some (.char '\n', rest)
    | 'r' => some (.char '\r', rest)
    | 'v' => some (.char '\x0b', rest)
    | 'A' => some (.anchor .textStart, rest)
    | 'z' => some (.anchor .textEnd, rest)
    | 'b' =>
      (readBoundary flags rest).map fun (edge, rest) => (.anchor (.word flags.asciiOnly edge), rest)
    | 'B' => some (.anchor (.word flags.asciiOnly .inside), rest)
    | '<' => some (.anchor (.word flags.asciiOnly .start), rest)
    | '>' => some (.anchor (.word flags.asciiOnly .finish), rest)
    | _ => if isEscapable c then some (.char c, rest) else none

end PartitionScan.Pattern
