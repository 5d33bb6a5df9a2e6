import PartitionScan.Pattern.Anchor

/-!
# Pattern expressions

Expressions are kept in a normal form: a set of one character is a literal, neighbouring literals
are joined, a sequence holds no sequence and a choice no choice, and branches that begin alike share
their beginning. The functions that build expressions see to that.
-/
namespace PartitionScan.Pattern

open Text (Ranges)

/-- A pattern expression. Sequences and choices nest to the right. -/
inductive Expr where
  | empty
  | literal (first : Char) (rest : List Char)
  | one (set : Ranges)
  | anchor (a : Anchor)
  | group (number : Nat) (body : Expr)
  | seq (a b : Expr)
  | alt (a b : Expr)
  | times (greedy : Bool) (least : Nat) (most : Option Nat) (body : Expr)
  deriving DecidableEq, Repr, Inhabited

namespace Expr

/-- The number of characters of a shortest match, unless some part matches nothing. -/
def minLength : Expr → Option Nat
  | empty => some 0
  | literal _ rest => some (rest.length + 1)
  | one set => if set.isEmpty then none else some 1
  | anchor _ => some 0
  | group _ body => body.minLength
  | seq a b => a.minLength.bind fun m => b.minLength.map (m + ·)
  | alt a b => a.minLength.bind fun m => b.minLength.map (min m ·)
  | times _ least _ body => body.minLength.map (least * ·)

def consumes (e : Expr) : Bool :=
  e.minLength.any (0 < ·)

def emptyOnly : Expr → Bool
  | empty => true
  | literal _ _ => false
  | one _ => false
  | anchor _ => true
  | group _ body => body.emptyOnly
  | seq a b => a.emptyOnly && b.emptyOnly
  | alt a b => a.emptyOnly && b.emptyOnly
  | times _ _ most body => most.isSome && body.emptyOnly

def char (c : Char) : Expr :=
  literal c []

def ofSet (set : Ranges) : Expr :=
  match set with
  | [(first, last)] => if first == last then char (Char.ofNat first) else one set
  | _ => one set

/-- A repetition. What takes up no character need not be repeated more than once. -/
def repeated (greedy : Bool) (least : Nat) (most : Option Nat) (body : Expr) : Expr :=
  let (least, most) :=
    if body.emptyOnly then (min least 1, some (min (most.getD 1) 1)) else (least, most)
  if most == some 0 then empty
  else if least == 1 && most == some 1 then body
  else times greedy least most body

def parts : Expr → List Expr
  | empty => []
  | seq a b => a :: b.parts
  | e => [e]

def branches : Expr → List Expr
  | alt a b => a :: b.branches
  | e => [e]

def joinLiterals : List Expr → List Expr
  | [] => []
  | e :: es =>
    match e, joinLiterals es with
    | literal c s, literal d t :: rest => literal c (s ++ d :: t) :: rest
    | e, rest => e :: rest

def inSequence : List Expr → Expr
  | [] => empty
  | [e] => e
  | e :: rest => seq e (inSequence rest)

def sequence (es : List Expr) : Expr :=
  inSequence (joinLiterals (es.flatMap parts))

def inChoice : List Expr → Expr
  | [] => one []
  | [e] => e
  | e :: rest => alt e (inChoice rest)

def codePoint? : Expr → Option Nat
  | literal c [] => some c.toNat
  | _ => none

def set? : Expr → Option Ranges
  | one set => some set
  | _ => none

def commonStart : List Expr → List Expr → List Expr
  | a :: as, b :: bs => if a = b then a :: commonStart as bs else []
  | _, _ => []

def sharedStart (es : List Expr) : List Expr :=
  match es.map parts with
  | [] => []
  | first :: rest =>
    if (first :: rest).all fun parts => 2 ≤ parts.length then rest.foldl commonStart first else []

/-- One of the expressions, the first being the most wanted. Characters make up a set, and so do
sets; otherwise what all begin with alike is taken out in front. -/
def choiceWith : Nat → List Expr → Expr
  | 0, es => inChoice es
  | fuel + 1, es =>
    let es := es.flatMap branches
    match es with
    | [e] => e
    | es =>
      match es.mapM codePoint?, es.mapM set? with
      | some ns, _ => ofSet (Ranges.ofCodePoints ns)
      | _, some sets => ofSet (sets.foldl Ranges.union [])
      | none, none =>
        let shared := sharedStart es
        if shared.isEmpty then inChoice es
        else
          let rests := es.map fun e => sequence (e.parts.drop shared.length)
          sequence (shared ++ [choiceWith fuel rests])

def choice (es : List Expr) : Expr :=
  choiceWith ((es.flatMap parts).length + 1) es

end Expr

end PartitionScan.Pattern
