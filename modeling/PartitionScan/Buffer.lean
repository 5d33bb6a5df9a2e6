import PartitionScan.Files
import PartitionScan.Line
import PartitionScan.Region

/-!
# Text buffers

A buffer holds its text as lines, together with the offsets at which they start, and is addressed by
character offsets: a lookup searches the starts for the line of an offset. `Buffer.text` is the flat
view. Every edit is a splice of it, although only the lines around the edit are split again.
-/
namespace PartitionScan

namespace Buffer

def joined (lines : List Line) : List Char :=
  lines.flatMap Line.chars

def extent : List Line → Nat
  | [] => 0
  | l :: rest => l.length + extent rest

@[simp] theorem extent_nil : extent [] = 0 := rfl

@[simp] theorem extent_cons (l : Line) (rest : List Line) :
    extent (l :: rest) = l.length + extent rest := rfl

@[simp] theorem length_joined (lines : List Line) : (joined lines).length = extent lines := by
  induction lines with
  | nil => rfl
  | cons l rest ih =>
    rw [joined, List.flatMap_cons, List.length_append, Line.length_chars, extent_cons, ← ih, joined]

def startsOf (lines : List Line) : List Nat :=
  (List.range lines.length).map fun line => extent (lines.take line)

def startsFrom (offset : Nat) : List Line → List Nat
  | [] => []
  | l :: rest => offset :: startsFrom (offset + l.length) rest

theorem startsFrom_eq (offset : Nat) (lines : List Line) :
    startsFrom offset lines = (startsOf lines).map (offset + ·) := by
  induction lines generalizing offset with
  | nil => rfl
  | cons l rest ih =>
    rw [startsFrom, ih, startsOf, startsOf, List.length_cons, List.range_succ_eq_map]
    simp [Function.comp_def, Nat.add_assoc]

theorem startsFrom_zero (lines : List Line) : startsFrom 0 lines = startsOf lines := by
  simp [startsFrom_eq]

end Buffer

/-- An editable text with its name, its file and whether it has unsaved changes. The starts are
those of the lines. -/
structure Buffer where
  lines : List Line
  lineStarts : List Nat
  name : String
  path : Option String := none
  modified : Bool := false
  indexed : lineStarts = Buffer.startsOf lines
  deriving DecidableEq, Repr

namespace Buffer

def ofText (name : String) (text : List Char) : Buffer :=
  let lines := Line.splitAll text
  { lines, lineStarts := startsFrom 0 lines, name, indexed := startsFrom_zero lines }

def scratch (text : List Char) : Buffer :=
  ofText "*scratch*" text

instance : Inhabited Buffer := ⟨scratch []⟩

def withLines (b : Buffer) (lines : List Line) : Buffer :=
  { b with lines, lineStarts := startsFrom 0 lines, indexed := startsFrom_zero lines }

def text (b : Buffer) : List Char :=
  joined b.lines

@[simp] theorem text_ofText (name : String) (text : List Char) : (ofText name text).text = text :=
  Line.flatMap_chars_splitAll text

def length (b : Buffer) : Nat :=
  match b.lineStarts.getLast?, b.lines.getLast? with
  | some start, some l => start + l.length
  | _, _ => 0

/-- Where a search of ascending values finds a value, or else where it would have to be inserted. -/
def locate (values : List Nat) (x : Nat) : Except Nat Nat :=
  let place := (values.takeWhile (· ≤ x)).length
  if values[place - 1]? = some x then .ok (place - 1) else .error place

/-- The line that holds an offset; the end of the text lies on the last line. -/
def lineOfOffset (b : Buffer) (offset : Nat) : Except Fault Nat :=
  let length := b.length
  if length < offset then .error (.badLocation offset length)
  else
    match locate b.lineStarts offset with
    | .ok line => .ok line
    | .error next => .ok (next - 1)

def line? (b : Buffer) (line : Nat) : Option Line :=
  b.lines[line]?

def line (b : Buffer) (line : Nat) : Except Fault Line :=
  match b.line? line with
  | some l => .ok l
  | none => .error (.badLine line b.lines.length)

def lineOffset (b : Buffer) (line : Nat) : Except Fault Nat :=
  match b.lineStarts[line]? with
  | some start => .ok start
  | none => .error (.badLine line b.lines.length)

def lineLength (b : Buffer) (line : Nat) : Except Fault Nat :=
  (b.line line).map Line.length

def lineRegion (b : Buffer) (line : Nat) : Except Fault Region := do
  let start ← b.lineOffset line
  return ⟨start, (← b.line line).content.length⟩

def charAt (b : Buffer) (offset : Nat) : Except Fault Char :=
  let length := b.length
  if length ≤ offset then .error (.badLocation offset length)
  else do
    let line ← b.lineOfOffset offset
    match (← b.line line).charAt? (offset - (← b.lineOffset line)) with
    | some c => return c
    | none => .error (.badLocation offset length)

def checkRange (b : Buffer) (offset length : Nat) : Except Fault Unit :=
  if offset + length < offsetLimit ∧ offset + length ≤ b.length then .ok ()
  else .error (.badLocation (min (offset + length) (offsetLimit - 1)) b.length)

def textOf (b : Buffer) (r : Region) : Except Fault (List Char) := do
  b.checkRange r.offset r.length
  (List.range' r.offset r.length).mapM b.charAt

/-- The lines that take the place of `chunk` when `length` characters at `start` of it are replaced.
A chunk that ends in a delimiter is followed by another line, so that the empty piece after that
delimiter is no line of its own. -/
def resplit (chunk : List Line) (start length : Nat) (text : List Char) : List Line :=
  let chars := joined chunk
  let pieces := Line.splitAll (chars.take start ++ text ++ chars.drop (start + length))
  match chunk.getLast? with
  | some last => if last.delimiter.isEmpty then pieces else pieces.dropLast
  | none => pieces

end Buffer

/-- What a call on a buffer does: it gives an answer or a fault, and leaves a buffer in either case.
-/
abbrev Editing := ExceptT Fault (StateM Buffer)

namespace Buffer

def run {α : Type} (b : Buffer) (call : Editing α) : Except Fault α × Buffer :=
  StateT.run (ExceptT.run call) b

section

variable {α β : Type} (b : Buffer)

@[simp] theorem run_pure (a : α) : b.run (pure a) = (.ok a, b) := rfl

@[simp] theorem run_get : b.run get = (.ok b, b) := rfl

@[simp] theorem run_set (b' : Buffer) : b.run (set b') = (.ok (), b') := rfl

@[simp] theorem run_modify (f : Buffer → Buffer) : b.run (modify f) = (.ok (), f b) := rfl

/-- A lookup leaves the buffer as it is. -/
@[simp] theorem run_liftM (x : Except Fault α) : b.run (liftM x) = (x, b) := rfl

theorem run_bind (call : Editing α) (next : α → Editing β) : b.run (call >>= next) =
    match b.run call with
    | (.ok a, b') => b'.run (next a)
    | (.error fault, b') => (.error fault, b') := by
  rw [run, run, ExceptT.run_bind, StateT.run_bind]
  rcases StateT.run (ExceptT.run call) b with ⟨_ | a, b'⟩ <;> rfl

end

/-- Replaces `length` characters at `offset`. Only the touched lines and their direct neighbours are
split again, which is enough for a CR and an LF that meet or part at the edit. -/
def replace (offset length : Nat) (text : List Char) : Editing Unit := do
  let b ← get
  b.checkRange offset length
  let first := (← b.lineOfOffset offset) - 1
  let last := min ((← b.lineOfOffset (offset + length)) + 1) (b.lines.length - 1)
  let chunkStart ← b.lineOffset first
  let chunk := (b.lines.drop first).take (last + 1 - first)
  let replacement := resplit chunk (offset - chunkStart) length text
  set (b.withLines (b.lines.take first ++ replacement ++ b.lines.drop (last + 1)))
  modify fun b => { b with modified := true }

def insert (offset : Nat) (text : List Char) : Editing Unit :=
  replace offset 0 text

def delete (r : Region) : Editing (List Char) := do
  let deleted ← (← get).textOf r
  replace r.offset r.length []
  return deleted

def readText (contents : Option ByteArray) : Except Fault String :=
  match contents.bind String.fromUTF8? with
  | some text => .ok text
  | none => .error .fileAccess

def ofFile (path : String) (contents : Option ByteArray) : Except Fault Buffer :=
  (readText contents).map fun text =>
    { ofText ((Path.fileName? path).getD "unnamed") text.toList with path := some path }

def writeTo (b : Buffer) (files : Files) (path : String) : Except Fault Files :=
  match files.write path (String.ofList b.text).toUTF8 with
  | some written => .ok written
  | none => .error .fileAccess

/-- Writes the text to the buffer's own file, after which it has no unsaved changes. -/
def save (b : Buffer) (files : Files) : Except Fault (Files × Buffer) :=
  match b.path with
  | none => .error .noFileName
  | some path => (b.writeTo files path).map fun written => (written, { b with modified := false })

end Buffer

end PartitionScan
