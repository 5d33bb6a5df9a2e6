import PartitionScan.Pattern.Expr

/-!
# Programs

An expression is laid out as a program: a list of nodes that name each other by number. From a node
and a place of the text one goes on to other nodes and places, in order of preference, until a node
accepts.
-/
namespace PartitionScan.Pattern

open Text (Ranges)

inductive Node where
  | one (set : Ranges) (next : Nat)
  | check (a : Anchor) (next : Nat)
  | fork (first second : Nat)
  | skip (next : Nat)
  | accept
  deriving DecidableEq, Repr, Inhabited

/-- Where a node at place `i` leads to, the most wanted first. -/
def Node.successors (text : Array Char) (i : Nat) : Node → List (Nat × Nat)
  | one set next => if (text[i]?).any set.hasChar then [(next, i + 1)] else []
  | check a next => if a.holds text i then [(next, i)] else []
  | fork first second => [(first, i), (second, i)]
  | skip next => [(next, i)]
  | accept => []

def Node.forkTo (greedy : Bool) (more leave : Nat) : Node :=
  if greedy then fork more leave else fork leave more

namespace Expr

def size : Expr → Nat
  | empty => 1
  | literal _ rest => rest.length + 1
  | one _ => 1
  | anchor _ => 1
  | group _ body => body.size
  | seq a b => a.size + b.size
  | alt a b => 1 + a.size + b.size
  | times _ 0 none body => if body.consumes then 1 + body.size else 2 + body.size
  | times _ (n + 1) none body => (n + 1) * body.size + 1
  | times _ least (some most) body => least * body.size + (most - least) * (1 + body.size) + 1

def spell (first : Char) (rest : List Char) (start next : Nat) : List Node :=
  match rest with
  | [] => [.one (Ranges.single first.toNat) next]
  | second :: rest =>
    .one (Ranges.single first.toNat) (start + 1) :: spell second rest (start + 1) next

def copies (nodes : Nat → Nat → List Node) (size count start : Nat) : List Node :=
  (List.range count).flatMap fun k => nodes (start + k * size) (start + (k + 1) * size)

/-- The nodes of an expression, numbered from `start` on. A match of the expression leads from the
first of them to the node `next`. -/
def nodes : Expr → Nat → Nat → List Node
  | empty, _, next => [.skip next]
  | literal first rest, start, next => spell first rest start next
  | one set, _, next => [.one set next]
  | anchor a, _, next => [.check a next]
  | group _ body, start, next => body.nodes start next
  | seq a b, start, next => a.nodes start (start + a.size) ++ b.nodes (start + a.size) next
  | alt a b, start, next =>
    .fork (start + 1) (start + 1 + a.size) ::
      (a.nodes (start + 1) next ++ b.nodes (start + 1 + a.size) next)
  | times greedy 0 none body, start, next =>
    if body.consumes then .forkTo greedy (start + 1) next :: body.nodes (start + 1) start
    else
      .forkTo greedy (start + 1) next ::
        (body.nodes (start + 1) (start + 1 + body.size) ++ [.forkTo greedy (start + 1) next])
  | times greedy (n + 1) none body, start, next =>
    let last := start + n * body.size
    copies body.nodes body.size n start ++ body.nodes last (last + body.size) ++
      [.forkTo greedy last next]
  | times greedy least (some most) body, start, next =>
    let middle := start + least * body.size
    let leave := middle + (most - least) * (1 + body.size)
    copies body.nodes body.size least start ++
      copies (fun i next => .forkTo greedy (i + 1) leave :: body.nodes (i + 1) next)
        (1 + body.size) (most - least) middle ++
      [.skip next]

/-- The program of an expression: it begins with node 0 and ends by accepting. -/
def program (e : Expr) : Array Node :=
  (e.nodes 0 e.size ++ [Node.accept]).toArray

end Expr

end PartitionScan.Pattern
