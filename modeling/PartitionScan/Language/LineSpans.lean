import PartitionScan.Language

/-!
# Spans of a line

The rules of a language carve typed spans out of the text of a line. The earliest opening wins; on
a tie a block rule beats a line rule and an earlier rule beats a later one. A construct that does
not close on its line leaves the line in the state of its rule, in which the next line begins.
-/
namespace PartitionScan

structure Span where
  start : Nat
  finish : Nat
  kind : String
  deriving DecidableEq, Repr, Inhabited

/-- Spans that hold a character each, lie between two places and follow each other. -/
structure Span.InOrder (start : Nat) (spans : List Span) (finish : Nat) : Prop where
  inside : ∀ s ∈ spans, start ≤ s.start ∧ s.start < s.finish ∧ s.finish ≤ finish
  apart : spans.Pairwise fun s t => s.finish ≤ t.start

theorem Span.inOrder_nil (start finish : Nat) : InOrder start [] finish :=
  ⟨fun _ h => (nomatch h), .nil⟩

/-- The spans of a line, and the state it ends in: 0, or the id of the block rule it is inside of.
-/
structure LineSpans where
  spans : List Span
  state : Nat
  deriving DecidableEq, Repr, Inhabited

namespace Language

/-- Where a rule first matches: a whole span, or the start of a block and the end of its opening. -/
inductive Opening where
  | line (rule : LineRule) (start finish : Nat)
  | block (rule : BlockRule) (start finish : Nat)
  deriving DecidableEq, Repr

def Opening.start : Opening → Nat
  | .line _ start _ => start
  | .block _ start _ => start

def Opening.finish : Opening → Nat
  | .line _ _ finish => finish
  | .block _ _ finish => finish

/-- The first of the openings that begin furthest to the left. -/
def earliest : List Opening → Option Opening
  | [] => none
  | o :: rest =>
    match earliest rest with
    | some p => if p.start < o.start then some p else some o
    | none => some o

theorem earliest_mem {os : List Opening} {o : Opening} (h : earliest os = some o) : o ∈ os := by
  induction os generalizing o with
  | nil => simp [earliest] at h
  | cons p os ih =>
    rw [earliest] at h
    split at h
    · rename_i q hq
      split at h
      · exact .tail _ (ih (hq.trans h))
      · simp_all
    · simp_all

/-- The rule of the block that a state is inside of. State 0 is inside of none. -/
def enclosing? (lang : Language) (state : Nat) : Option BlockRule :=
  if state = 0 then none else lang.block? state

end Language

end PartitionScan
