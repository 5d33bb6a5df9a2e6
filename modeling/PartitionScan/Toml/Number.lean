import PartitionScan.Text.Hex
import PartitionScan.Toml.Value

/-!
# Numbers and dates of TOML

Integers of 64 bits, decimal fractions, dates and times.
-/
namespace PartitionScan.Toml

/-- Digits with single underscores between them. -/
def readDigits (isDigit : Char → Bool) (cs : List Char) : Option (List Char × List Char) :=
  let run := cs.takeWhile fun c => isDigit c || c == '_'
  if wellPlaced false run then some (run.filter (· != '_'), cs.drop run.length) else none
where
  /-- Whether every underscore has a digit on both sides and there is a digit at the end. -/
  wellPlaced (afterDigit : Bool) : List Char → Bool
    | [] => afterDigit
    | c :: rest => if c == '_' then afterDigit && wellPlaced false rest else wellPlaced true rest

def valueOf (base : Nat) (digits : List Char) : Nat :=
  digits.foldl (fun n d => n * base + Text.hexValue d) 0

def readWhole (cs : List Char) : Option (List Char × List Char) :=
  match readDigits Char.isDigit cs with
  | some ('0' :: _ :: _, _) => none
  | other => other

def integerOf (n : Int) : Option Value :=
  if Int64.minValue.toInt ≤ n ∧ n ≤ Int64.maxValue.toInt then some (.integer n) else none

/-- Whether the decimal `digits · 10 ^ exponent` is too large for a binary fraction of 64 bits,
whose values end half a unit below `2 ^ 1024`. -/
def isTooLarge (digits : List Char) (exponent : Int) : Bool :=
  let n := valueOf 10 digits
  let magnitude := (Nat.toDigits 10 n).length + exponent
  if n == 0 || magnitude < 300 then false
  else if 400 < magnitude then true
  else if 0 ≤ exponent then Nat.pow 2 1024 - Nat.pow 2 970 ≤ n * Nat.pow 10 exponent.toNat
  else (Nat.pow 2 1024 - Nat.pow 2 970) * Nat.pow 10 (-exponent).toNat ≤ n

def readFraction : List Char → Option (Option (List Char) × List Char)
  | '.' :: rest => (readDigits Char.isDigit rest).map fun (digits, rest) => (some digits, rest)
  | cs => some (none, cs)

def readExponent : List Char → Option (Option Int × List Char)
  | c :: rest =>
    if c == 'e' || c == 'E' then
      let (negative, rest) :=
        match rest with
        | '+' :: rest => (false, rest)
        | '-' :: rest => (true, rest)
        | rest => (false, rest)
      (readDigits Char.isDigit rest).map fun (digits, rest) =>
        let n : Int := valueOf 10 digits
        (some (if negative then -n else n), rest)
    else some (none, c :: rest)
  | [] => some (none, [])

def readDecimal (negative : Bool) (cs : List Char) : Option (Value × List Char) := do
  let (whole, rest) ← readWhole cs
  let (fraction, rest) ← readFraction rest
  let (exponent, rest) ← readExponent rest
  if fraction.isNone && exponent.isNone then
    let n : Int := valueOf 10 whole
    let v ← integerOf (if negative then -n else n)
    return (v, rest)
  else
    let decimals := fraction.getD []
    if !negative && isTooLarge (whole ++ decimals) (exponent.getD 0 - decimals.length) then none
    else return (.float (String.ofList (cs.take (cs.length - rest.length))), rest)

def readInBase (base : Nat) (isDigit : Char → Bool) (cs : List Char) :
    Option (Value × List Char) := do
  let (digits, rest) ← readDigits isDigit cs
  let v ← integerOf (valueOf base digits)
  return (v, rest)

def readSigned (negative : Bool) : List Char → Option (Value × List Char)
  | 'i' :: 'n' :: 'f' :: rest => some (.float "inf", rest)
  | 'n' :: 'a' :: 'n' :: rest => some (.float "nan", rest)
  | cs => readDecimal negative cs

def readFixed (count : Nat) (cs : List Char) : Option (Nat × List Char) :=
  let digits := cs.take count
  if digits.length == count && digits.all Char.isDigit then
    some (valueOf 10 digits, cs.drop count)
  else none

def daysIn (year month : Nat) : Nat :=
  if month == 2 then
    if year % 4 == 0 && (year % 100 != 0 || year % 400 == 0) then 29 else 28
  else if [4, 6, 9, 11].contains month then 30
  else 31

def readChar (c : Char) : List Char → Option (List Char)
  | d :: rest => if c == d then some rest else none
  | [] => none

def readDate (cs : List Char) : Option (List Char) := do
  let (year, rest) ← readFixed 4 cs
  let (month, rest) ← readFixed 2 (← readChar '-' rest)
  let (day, rest) ← readFixed 2 (← readChar '-' rest)
  if 1 ≤ month && month ≤ 12 && 1 ≤ day && day ≤ daysIn year month then some rest else none

/-- A time of day: hour, minute, second and fraction. A minute may have 61 seconds. -/
def readTime (cs : List Char) : Option (List Char) := do
  let (hour, rest) ← readFixed 2 cs
  let (minute, rest) ← readFixed 2 (← readChar ':' rest)
  let (second, rest) ← readFixed 2 (← readChar ':' rest)
  if hour ≤ 23 && minute ≤ 59 && second ≤ 60 then
    match rest with
    | '.' :: digits =>
      if (digits.head?).any Char.isDigit then some (digits.dropWhile Char.isDigit) else some rest
    | _ => some rest
  else none

def readZone (cs : List Char) : Option (List Char) :=
  match cs with
  | c :: rest =>
    if c == 'Z' || c == 'z' then some rest
    else if c == '+' || c == '-' then do
      let (hour, rest) ← readFixed 2 rest
      let (minute, rest) ← readFixed 2 (← readChar ':' rest)
      if hour ≤ 23 && minute ≤ 59 then some rest else none
    else some cs
  | [] => some []

/-- A date, possibly with a time of day, after a `T` or a space. -/
def readDateTime (cs : List Char) : Option (List Char) := do
  let rest ← readDate cs
  match rest with
  | c :: time =>
    if (c == 'T' || c == 't' || c == ' ') && (readFixed 2 time).isSome then
      readZone (← readTime time)
    else some rest
  | [] => some []

def readUnsigned (cs : List Char) : Option (Value × List Char) :=
  let dated (rest : List Char) :=
    (.dateTime (String.ofList (cs.take (cs.length - rest.length))), rest)
  match cs with
  | '0' :: 'x' :: rest => readInBase 16 Text.isHexDigit rest
  | '0' :: 'o' :: rest => readInBase 8 (fun c => '0' ≤ c && c ≤ '7') rest
  | '0' :: 'b' :: rest => readInBase 2 (fun c => c == '0' || c == '1') rest
  | _ =>
    if (cs.drop 4).head? == some '-' && (cs.take 4).all Char.isDigit then
      (readDateTime cs).map dated
    else if (cs.drop 2).head? == some ':' && (cs.take 2).all Char.isDigit then
      (readTime cs).map dated
    else readDecimal false cs

def readNumber : List Char → Option (Value × List Char)
  | '+' :: rest => readSigned false rest
  | '-' :: rest => readSigned true rest
  | 'i' :: rest => readSigned false ('i' :: rest)
  | 'n' :: rest => readSigned false ('n' :: rest)
  | c :: rest => if c.isDigit then readUnsigned (c :: rest) else none
  | [] => none

end PartitionScan.Toml
