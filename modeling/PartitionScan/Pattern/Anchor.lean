import PartitionScan.Pattern.Property

/-!
# Anchors

Conditions on a place of the text that take up no character: the ends of the text, of lines and of
words.
-/
namespace PartitionScan.Pattern

/-- What an anchor asks of the word characters around a place. -/
inductive WordEdge where
  | boundary
  | inside
  | start
  | finish
  | startHalf
  | endHalf
  deriving DecidableEq, Repr

/-- A condition on a place of the text. Words are made of the word characters of all scripts or of
those in ASCII. -/
inductive Anchor where
  | textStart
  | textEnd
  | lineStart
  | lineEnd
  | lineStartCrlf
  | lineEndCrlf
  | word (ascii : Bool) (edge : WordEdge)
  deriving DecidableEq, Repr

def isWord (ascii : Bool) (c : Char) : Bool :=
  if ascii then c.isAlphanum || c == '_' else wordChars.hasChar c

def WordEdge.holds (before after : Bool) : WordEdge → Bool
  | .boundary => before != after
  | .inside => before == after
  | .start => !before && after
  | .finish => before && !after
  | .startHalf => !before
  | .endHalf => !after

def Anchor.holds (text : Array Char) (i : Nat) : Anchor → Bool
  | .textStart => i == 0
  | .textEnd => i == text.size
  | .lineStart => i == 0 || text[i - 1]? == some '\n'
  | .lineEnd => i == text.size || text[i]? == some '\n'
  | .lineStartCrlf =>
    i == 0 || text[i - 1]? == some '\n' || (text[i - 1]? == some '\r' && text[i]? != some '\n')
  | .lineEndCrlf =>
    i == text.size || text[i]? == some '\r' ||
      (text[i]? == some '\n' && !(0 < i && text[i - 1]? == some '\r'))
  | .word ascii edge =>
    edge.holds (0 < i && (text[i - 1]?).any (isWord ascii)) ((text[i]?).any (isWord ascii))

end PartitionScan.Pattern
