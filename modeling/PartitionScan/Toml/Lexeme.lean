import PartitionScan.Text.Hex

/-!
# Blanks, comments and strings of TOML

Readers for the smallest parts of a document. A reader takes the characters that are left and gives
what it read together with the rest, or nothing if they are malformed.
-/
namespace PartitionScan.Toml

def isBlank (c : Char) : Bool :=
  c == ' ' || c == '\t'

def skipBlanks (cs : List Char) : List Char :=
  cs.dropWhile isBlank

/-- Characters that may stand in comments and, but for quotes, in strings: no controls but the tab.
-/
def isPlain (c : Char) : Bool :=
  c == '\t' || (' ' ≤ c && c != '\x7f')

def readNewline : List Char → Option (List Char)
  | '\n' :: rest => some rest
  | '\r' :: '\n' :: rest => some rest
  | _ => none

def readLineEnd (cs : List Char) : Option (List Char) :=
  let rest :=
    match skipBlanks cs with
    | '#' :: comment => comment.dropWhile isPlain
    | rest => rest
  if rest.isEmpty then some [] else readNewline rest

def skipGaps (inComment : Bool) : List Char → List Char
  | [] => []
  | c :: rest =>
    if inComment && isPlain c then skipGaps true rest
    else if isBlank c || c == '\n' then skipGaps false rest
    else if c == '\r' && rest.head? == some '\n' then skipGaps false rest
    else if c == '#' && !inComment then skipGaps true rest
    else c :: rest

def readStringEscape : List Char → Option (Char × List Char)
  | 'b' :: rest => some ('\x08', rest)
  | 'f' :: rest => some ('\x0c', rest)
  | 'n' :: rest => some ('\n', rest)
  | 'r' :: rest => some ('\r', rest)
  | 't' :: rest => some ('\t', rest)
  | '"' :: rest => some ('"', rest)
  | '\\' :: rest => some ('\\', rest)
  | 'u' :: rest =>
    if rest.length < 4 then none else (Text.charOfHex (rest.take 4)).map (·, rest.drop 4)
  | 'U' :: rest =>
    if rest.length < 8 then none else (Text.charOfHex (rest.take 8)).map (·, rest.drop 8)
  | _ => none

def readBasic : Nat → List Char → Option (List Char × List Char)
  | 0, _ => none
  | fuel + 1, cs =>
    let andThen (c : Char) (rest : List Char) :=
      (readBasic fuel rest).map fun (s, rest) => (c :: s, rest)
    match cs with
    | [] => none
    | '"' :: rest => some ([], rest)
    | '\\' :: rest =>
      match readStringEscape rest with
      | some (c, rest) => andThen c rest
      | none => none
    | c :: rest => if isPlain c then andThen c rest else none

/-- The end of a multi-line string, after three quotes: up to two more belong to the string. -/
def readExtraQuotes (quote : Char) (rest : List Char) : List Char × List Char :=
  let extra := (rest.take 2).takeWhile (· == quote)
  (extra, rest.drop extra.length)

def skipFirstNewline (cs : List Char) : List Char :=
  (readNewline cs).getD cs

/-- What follows a backslash at the end of a line: blanks, the line break, and all blanks and line
breaks after it. -/
def readBrokenLine (cs : List Char) : Option (List Char) :=
  (readNewline (skipBlanks cs)).map skipBreaks
where
  /-- Drops blanks and line breaks. -/
  skipBreaks : List Char → List Char
    | [] => []
    | c :: rest =>
      if isBlank c || c == '\n' then skipBreaks rest
      else if c == '\r' && rest.head? == some '\n' then skipBreaks rest
      else c :: rest

/-- A multi-line basic string, after its three opening quotes. Line breaks are read as LF. -/
def readMultiBasic : Nat → List Char → Option (List Char × List Char)
  | 0, _ => none
  | fuel + 1, cs =>
    let andThen (c : Char) (rest : List Char) :=
      (readMultiBasic fuel rest).map fun (s, rest) => (c :: s, rest)
    match cs with
    | [] => none
    | '"' :: '"' :: '"' :: rest => some (readExtraQuotes '"' rest)
    | '\\' :: rest =>
      match readStringEscape rest, readBrokenLine rest with
      | some (c, rest), _ => andThen c rest
      | none, some rest => readMultiBasic fuel rest
      | none, none => none
    | '\r' :: '\n' :: rest => andThen '\n' rest
    | c :: rest => if isPlain c || c == '\n' then andThen c rest else none

def readLiteral (cs : List Char) : Option (List Char × List Char) :=
  let text := cs.takeWhile fun c => isPlain c && c != '\x27'
  match cs.drop text.length with
  | '\x27' :: rest => some (text, rest)
  | _ => none

def readMultiLiteral : List Char → Option (List Char × List Char)
  | [] => none
  | '\x27' :: '\x27' :: '\x27' :: rest => some (readExtraQuotes '\x27' rest)
  | '\r' :: '\n' :: rest => (readMultiLiteral rest).map fun (s, rest) => ('\n' :: s, rest)
  | c :: rest =>
    if isPlain c || c == '\n' then (readMultiLiteral rest).map fun (s, rest) => (c :: s, rest)
    else none

def readString : List Char → Option (String × List Char)
  | '"' :: '"' :: '"' :: rest =>
    (readMultiBasic (rest.length + 1) (skipFirstNewline rest)).map
      fun (s, rest) => (String.ofList s, rest)
  | '"' :: rest => (readBasic (rest.length + 1) rest).map fun (s, rest) => (String.ofList s, rest)
  | '\x27' :: '\x27' :: '\x27' :: rest =>
    (readMultiLiteral (skipFirstNewline rest)).map fun (s, rest) => (String.ofList s, rest)
  | '\x27' :: rest => (readLiteral rest).map fun (s, rest) => (String.ofList s, rest)
  | _ => none

def isBare (c : Char) : Bool :=
  c.isAlphanum || c == '-' || c == '_'

def readKeyPart : List Char → Option (String × List Char)
  | '"' :: rest => (readBasic (rest.length + 1) rest).map fun (s, rest) => (String.ofList s, rest)
  | '\x27' :: rest => (readLiteral rest).map fun (s, rest) => (String.ofList s, rest)
  | cs =>
    let word := cs.takeWhile isBare
    if word.isEmpty then none else some (String.ofList word, cs.drop word.length)

def readKeyParts : Nat → List Char → Option (List String × List Char)
  | 0, _ => none
  | fuel + 1, cs =>
    match readKeyPart (skipBlanks cs) with
    | none => none
    | some (part, rest) =>
      match skipBlanks rest with
      | '.' :: rest => (readKeyParts fuel rest).map fun (parts, rest) => (part :: parts, rest)
      | rest => some ([part], rest)

/-- The largest number of parts of a key, and of arrays and tables inside each other, plus one. -/
def depthLimit : Nat := 80

def readKey (cs : List Char) : Option ((List String × String) × List Char) :=
  match readKeyParts (cs.length + 1) cs with
  | none => none
  | some (parts, rest) =>
    match parts.getLast? with
    | some last => if parts.length < depthLimit then some ((parts.dropLast, last), rest) else none
    | none => none

end PartitionScan.Toml
