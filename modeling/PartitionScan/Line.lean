import PartitionScan.Offset

/-!
# Lines

A line is its content and the delimiter that ends it. `Line.splitAll` cuts a text at every LF,
CR LF and CR; the last line, possibly empty, is the one that has no delimiter.
-/
namespace PartitionScan

/-- A line of text: its content and its delimiter, which is empty for the last line of a text. -/
structure Line where
  content : List Char := []
  delimiter : List Char := []
  deriving DecidableEq, Repr, Inhabited

namespace Line

def chars (l : Line) : List Char :=
  l.content ++ l.delimiter

def length (l : Line) : Nat :=
  l.content.length + l.delimiter.length

@[simp] theorem length_chars (l : Line) : l.chars.length = l.length := by
  simp [chars, length]

def isEmpty (l : Line) : Bool :=
  l.content.isEmpty && l.delimiter.isEmpty

def charAt? (l : Line) (column : Nat) : Option Char :=
  l.chars[column]?

def push (c : Char) (l : Line) : Line :=
  { l with content := c :: l.content }

@[simp] theorem chars_push (c : Char) (l : Line) : (l.push c).chars = c :: l.chars := rfl

def pushFirst (c : Char) : List Line → List Line
  | [] => [{ content := [c] }]
  | l :: rest => l.push c :: rest

def splitAll : List Char → List Line
  | [] => [{}]
  | '\n' :: rest => { delimiter := ['\n'] } :: splitAll rest
  | '\r' :: '\n' :: rest => { delimiter := ['\r', '\n'] } :: splitAll rest
  | '\r' :: rest => { delimiter := ['\r'] } :: splitAll rest
  | c :: rest => pushFirst c (splitAll rest)

theorem flatMap_chars_pushFirst (c : Char) (lines : List Line) :
    (pushFirst c lines).flatMap chars = c :: lines.flatMap chars := by
  cases lines with
  | nil => rfl
  | cons l rest => simp [pushFirst]

/-- Splitting loses no character. -/
@[simp] theorem flatMap_chars_splitAll (text : List Char) :
    (splitAll text).flatMap chars = text := by
  fun_induction splitAll text with
  | case1 => rfl
  | case2 rest ih => simp [chars, ih]
  | case3 rest ih => simp [chars, ih]
  | case4 rest _ ih => simp [chars, ih]
  | case5 c rest _ _ _ ih => rw [flatMap_chars_pushFirst, ih]

theorem splitAll_ne_nil (text : List Char) : splitAll text ≠ [] := by
  fun_induction splitAll text with
  | case5 c rest _ _ _ ih => cases h : splitAll rest <;> simp [pushFirst]
  | _ => simp

/-- How many cells of a display line a character takes up behind a display column: a tab leads to
the next multiple of the tab width. -/
def cells (width : Char → Nat) (tabWidth column : Nat) (c : Char) : Nat :=
  if c = '\t' then tabWidth - column % tabWidth else width c

def advance (width : Char → Nat) (tabWidth column : Nat) (c : Char) : Except Fault Nat :=
  addOffsets column (cells width tabWidth column c)

/-- The display column at which the character of a column starts; past the content, where the
content ends. A tab width of 0 counts as 1. -/
def displayColumn (width : Char → Nat) (l : Line) (tabWidth column : Nat) : Except Fault Nat :=
  (l.content.take column).foldlM (advance width (max tabWidth 1)) 0

def displayWidth (width : Char → Nat) (l : Line) (tabWidth : Nat) : Except Fault Nat :=
  l.displayColumn width tabWidth l.content.length

end Line

end PartitionScan
