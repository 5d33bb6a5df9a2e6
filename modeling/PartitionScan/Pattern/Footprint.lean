import PartitionScan.Pattern.Expr
import PartitionScan.Pattern.Layout

/-!
# The footprint of patterns

The space of a pattern is that of two automata over bytes, one that reads forward and one that reads
backward. Patterns that would take up too much space are refused.
-/
namespace PartitionScan.Pattern

open Text (Ranges)

/-- The layout of a set of characters. One state is enough for ASCII characters, and one to go on.
-/
def layoutOfSet (set : Ranges) : Layout :=
  if List.all set fun (_, last) => last ≤ 0x7F then .fixed 2 (8 * set.length)
  else .set (byteSequences set)

/-- The place of an expression in a choice. The states that begin and end a choice are laid out
after its second branch. -/
inductive BranchPlace where
  | none
  | second
  | later
  deriving DecidableEq, Repr

def BranchPlace.close (place : BranchPlace) (own : Layout) : Layout :=
  match place with
  | .none => own
  | .second => .both own (.fixed 2 8)
  | .later => .both own (.fixed 0 4)

namespace Expr

def literalBytes? (backward : Bool) : Expr → Option (List Nat)
  | literal first rest =>
    let bytes := (first :: rest).flatMap bytesOf
    some (if backward then bytes.reverse else bytes)
  | _ => none

/-- The layout of a choice between literals, which share what they begin with. -/
def literalsLayout? (backward : Bool) (es : List Expr) : Option Layout :=
  (es.mapM (literalBytes? backward)).map fun words =>
    let size := wordTreeSize (words.flatten.length + 1) words
    .fixed (size.states + 1) size.links

def repetitionLayout (consumes : Bool) (least : Nat) (most : Option Nat) (once : Layout) : Layout :=
  match least, most with
  | 0, none => if consumes then .both (.fixed 1 8) once else .both once (.fixed 3 16)
  | 0, some 1 => .both (.fixed 1 8) (.both once (.fixed 1 0))
  | least, none => .both (.again least once) (.fixed 1 8)
  | least, some most =>
    let needed : Layout := if least == 0 then .fixed 1 0 else .again least once
    if least == most then needed
    else .both needed (.both (.fixed 1 0) (.again (most - least) (.both (.fixed 1 8) once)))

def layout (backward : Bool) : Expr → BranchPlace → Layout
  | empty, place => place.close (.fixed 1 0)
  | literal first rest, place => place.close (.fixed ((first :: rest).flatMap bytesOf).length 0)
  | one set, place => place.close (layoutOfSet set)
  | anchor _, place => place.close (.fixed 1 0)
  | group _ body, place =>
    let body := body.layout backward .none
    place.close (if backward then body else .both (.fixed 1 0) (.both body (.fixed 1 0)))
  | seq a b, place =>
    let a := a.layout backward .none
    let b := b.layout backward .none
    place.close (if backward then .both b a else .both a b)
  | alt a b, place =>
    match place with
    | .none =>
      (literalsLayout? backward (a :: b.branches)).getD
        (.both (a.layout backward .none) (b.layout backward .second))
    | place => .both (place.close (a.layout backward .none)) (b.layout backward .later)
  | times _ least most body, place =>
    place.close (repetitionLayout body.consumes least most (body.layout backward .none))

def startsAt (a : Anchor) : Expr → Bool
  | anchor b => a == b
  | group _ body => body.startsAt a
  | seq x y => x.startsAt a || (x.emptyOnly && y.startsAt a)
  | alt x y => x.startsAt a && y.startsAt a
  | times _ least _ body => 0 < least && body.startsAt a
  | _ => false

def endsAt (a : Anchor) : Expr → Bool
  | anchor b => a == b
  | group _ body => body.endsAt a
  | seq x y => y.endsAt a || (y.emptyOnly && x.endsAt a)
  | alt x y => x.endsAt a && y.endsAt a
  | times _ least _ body => 0 < least && body.endsAt a
  | _ => false

/-- The layout of what comes before an expression: an automaton that is not tied to an end of the
text can start anywhere. -/
def lead (tied : Bool) : Layout :=
  if tied then .fixed 1 0 else .fixed 3 16

/-- The automaton that reads forward. It marks where the match lies. -/
def forwardLayout (e : Expr) : Layout :=
  .both (lead (e.startsAt .textStart))
    (.both (.fixed 1 0) (.both (e.layout false .none) (.fixed 2 0)))

def backwardLayout (e : Expr) : Layout :=
  .both (lead (e.endsAt .textEnd)) (.both (e.layout true .none) (.fixed 1 0))

def fits (e : Expr) : Bool :=
  !(e.forwardLayout.addTo false {}).exceeds && !(e.backwardLayout.addTo true {}).exceeds

end Expr

end PartitionScan.Pattern
