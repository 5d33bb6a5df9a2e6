import PartitionScan.CharPair
import PartitionScan.Language
import PartitionScan.Text.Lowercase
import PartitionScan.Toml.Reader

/-!
# Settings

Settings are read from a TOML document. Unknown keys are passed over, and what is not set keeps its
default.
-/
namespace PartitionScan

structure Settings where
  lineBreakIsBlank : Bool := false
  escape : Option Char := none
  tabWidth : Nat := 8
  pairs : List CharPair := [.parentheses, .brackets, .braces]
  languages : List Language := []
  deriving Repr, Inhabited

namespace Settings

open Toml (Value Entries)

/-- A switch: a boolean, a number that is not 0, or one of the words for yes. -/
def switchOf : Value → Option Bool
  | .boolean b => some b
  | .integer n => some (n != 0)
  | .string s => some (["true", "yes", "on", "1"].contains (Text.lowercase s))
  | _ => none

def oneChar (key text : String) : Except SettingFault Char :=
  match text.toList with
  | [c] => .ok c
  | _ => .error (.notOneChar key text)

/-- The escape: a text of one character, or an empty one for none. -/
def escapeOf (v : Value) : Except SettingFault (Option Char) :=
  match v.string? with
  | none => .error .escapeNotText
  | some "" => .ok none
  | some s => (oneChar "escape-char" s).map some

def pairOf (v : Value) : Except SettingFault CharPair :=
  match v.string? with
  | none => .error .pairNotText
  | some s =>
    match s.toList with
    | [opening, closing] => .ok { opening, closing }
    | _ => .error (.pairNotTwoChars s)

def requiredText (entries : Entries) (owner key : String) : Except SettingFault String :=
  match (entries.lookup key).bind Value.string? with
  | some s => .ok s
  | none => .error (.missingText owner key)

def arrayAt (entries : Entries) (key : String) : List Value :=
  ((entries.lookup key).bind Value.array?).getD []

def tablesAmong (values : List Value) : List (Entries × Nat) :=
  values.zipIdx.filterMap fun (v, i) => v.table?.map (·, i)

/-- A block rule. Its id is its place among the block rules, counted from 1 and at most 255. -/
def blockRuleOf (language : String) (block : Entries) (place : Nat) : Except Fault BlockRule := do
  let required (key : String) := (requiredText block "block rule" key).mapError Fault.setting
  let name ← required "name"
  let opening ← required "start"
  let closing ← required "end"
  let kind ← required "partition"
  if 255 < place + 1 then throw (.setting (.tooManyBlocks language))
  let escape ←
    match (block.lookup "escape").bind Value.string? with
    | some s => ((oneChar "escape" s).map some).mapError Fault.setting
    | none => .ok none
  BlockRule.make name opening closing kind (place + 1) escape

/-- A line rule. Its priority is kept in 32 bits. -/
def lineRuleOf (line : Entries) : Except Fault LineRule := do
  let required (key : String) := (requiredText line "line rule" key).mapError Fault.setting
  let name ← required "name"
  let pattern ← required "pattern"
  let kind ← required "partition"
  let priority := ((line.lookup "priority").bind Value.integer?).getD 0
  LineRule.make name pattern kind (Int.bmod priority UInt32.size)

def languageOf (entries : Entries) : Except Fault Language := do
  let name ← (requiredText entries "language" "name").mapError Fault.setting
  let extensions := (arrayAt entries "extensions").filterMap Value.string?
  let blocks ← (tablesAmong (arrayAt entries "block")).mapM fun (b, i) => blockRuleOf name b i
  let lines ← (tablesAmong (arrayAt entries "line")).mapM fun (l, _) => lineRuleOf l
  return .ofRules name extensions blocks lines

def languageEntry (v : Value) : Except Fault Language :=
  match v.table? with
  | some entries => languageOf entries
  | none => .error (.setting .languageNotTable)

def readSetting {α : Type} (entries : Entries) (key : String) (unset : α)
    (read : Value → Except Fault α) : Except Fault α :=
  match entries.lookup key with
  | some v => read v
  | none => .ok unset

def readArray {α : Type} (notArray : SettingFault) (read : Value → Except Fault α) (v : Value) :
    Except Fault (List α) :=
  match v.array? with
  | some items => items.mapM read
  | none => .error (.setting notArray)

/-- The settings that the entries of a document make. Tabs are 1 to 16 wide. -/
def ofEntries (entries : Entries) : Except Fault Settings := do
  let unset : Settings := {}
  let escape ← readSetting entries "escape-char" unset.escape fun v =>
    (escapeOf v).mapError Fault.setting
  let pairs ← readSetting entries "pairs" unset.pairs
    (readArray .pairsNotArray fun v => (pairOf v).mapError Fault.setting)
  let languages ← readSetting entries "language" unset.languages
    (readArray .languageNotArray languageEntry)
  let lineBreakIsBlank :=
    ((entries.lookup "line-break-is-blank").bind switchOf).getD unset.lineBreakIsBlank
  let tabWidth :=
    match (entries.lookup "tab-width").bind Value.integer? with
    | some n => (max 1 (min n 16)).toNat
    | none => unset.tabWidth
  return { lineBreakIsBlank, escape, tabWidth, pairs, languages }

def ofToml (text : String) : Except Fault Settings :=
  match Toml.readDocument text with
  | some entries => ofEntries entries
  | none => .error (.setting .malformed)

end Settings

end PartitionScan
