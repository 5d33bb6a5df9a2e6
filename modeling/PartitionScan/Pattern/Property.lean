import PartitionScan.Pattern.Property.Age
import PartitionScan.Pattern.Property.Segment

/-!
# Character properties

The sets of characters that patterns know by name: words, digits and spaces, and the properties,
categories and scripts of the character standard. Names are compared without regard to case, blanks,
hyphens, low lines and a leading `is`.
-/
namespace PartitionScan.Pattern

open Text (Ranges)

/-- A character of a word: letters, marks, digits, connectors and the two joiners. -/
def wordChars : Ranges :=
  .union alphabetic
    (.union (ofCategories ["mn", "mc", "me", "nd", "pc"]) (ofBinaryTable "joincontrol"))

def digitChars : Ranges :=
  ofCategories ["nd"]

def spaceChars : Ranges :=
  ofBinaryTable "whitespace"

def startsWithIs : List Char → Bool
  | a :: b :: _ => (a == 'i' || a == 'I') && (b == 's' || b == 'S')
  | _ => false

def normalName (name : List Char) : String :=
  let kept := (if startsWithIs name then name.drop 2 else name).filter fun c =>
    c.toNat < 128 && c != ' ' && c != '_' && c != '-'
  let text := String.ofList (kept.map Char.toLower)
  if startsWithIs name && text == "c" then "isc" else text

def named? (name : List Char) : Option Ranges :=
  let name := normalName name
  let property := if name == "cf" || name == "sc" || name == "lc" then none else binary? name
  match property with
  | some s => some s
  | none =>
    match category? name with
    | some s => some s
    | none => script? name

def valued? (property value : List Char) : Option Ranges :=
  match normalName property with
  | "generalcategory" | "gc" => category? (normalName value)
  | "script" | "sc" => script? (normalName value)
  | "scriptextensions" | "scx" => scriptUse? (normalName value)
  | "age" => age? (normalName value)
  | "graphemeclusterbreak" | "gcb" => clusterBreak? (normalName value)
  | "wordbreak" | "wb" => wordBreak? (normalName value)
  | "sentencebreak" | "sb" => sentenceBreak? (normalName value)
  | _ => none

def splitAtMark (mark : List Char) : List Char → Option (List Char × List Char)
  | [] => none
  | c :: rest =>
    if mark.isPrefixOf (c :: rest) then some ([], (c :: rest).drop mark.length)
    else (splitAtMark mark rest).map fun (before, after) => (c :: before, after)

/-- What the text between the braces of a property says: the characters with the property, and
whether those without it are meant. -/
def property? (text : List Char) : Option (Ranges × Bool) :=
  match splitAtMark ['!', '='] text with
  | some (name, value) => (valued? name value).map (·, true)
  | none =>
    let found :=
      match splitAtMark [':'] text with
      | some (name, value) => valued? name value
      | none =>
        match splitAtMark ['='] text with
        | some (name, value) => valued? name value
        | none => named? text
    found.map (·, false)

end PartitionScan.Pattern
