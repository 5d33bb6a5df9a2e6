import PartitionScan.Pattern.ByteForm
import PartitionScan.Pattern.Expr

/-!
# How matches begin

The openings of an expression are the bytes that its matches begin with, the most wanted first.
Where every opening is a whole match, the pattern is a list of texts, which can be looked up without
an automaton. Openings are gathered within limits: beyond these, beginnings are cut short or given
up.
-/
namespace PartitionScan.Pattern

open Text (Ranges)

/-- Bytes that a match begins with, and whether they are the whole match. -/
structure Opening where
  bytes : List Nat
  whole : Bool := true
  deriving DecidableEq, Repr, Inhabited

namespace Opening

def unfinished (o : Opening) : Opening :=
  { o with whole := false }

def cutTo (count : Nat) (o : Opening) : Opening :=
  if o.bytes.length ≤ count then o else { bytes := o.bytes.take count, whole := false }

def append (a b : Opening) : Opening :=
  { bytes := a.bytes ++ b.bytes, whole := b.whole }

/-- Joins neighbours with equal bytes. They are a whole match only if both are. -/
def joinEqual : List Opening → List Opening
  | [] => []
  | o :: rest =>
    match joinEqual rest with
    | [] => [o]
    | p :: others =>
      if o.bytes = p.bytes then { p with whole := o.whole && p.whole } :: others
      else o :: p :: others

/-- Leaves out the openings that begin with an earlier one, which is always found first. `kept` are
the earlier ones. -/
def dropCovered (kept : List Opening) : List Opening → List Opening
  | [] => []
  | o :: rest =>
    if kept.any fun k => k.bytes.isPrefixOf o.bytes then dropCovered kept rest
    else o :: dropCovered (o :: kept) rest

def commonBytes : List Nat → List Nat → List Nat
  | a :: as, b :: bs => if a = b then a :: commonBytes as bs else []
  | _, _ => []

def sharedBytes : List Opening → List Nat
  | [] => []
  | o :: rest => rest.foldl (fun shared p => commonBytes shared p.bytes) o.bytes

end Opening

/-- The openings of an expression, or nothing if they cannot be told. -/
abbrev Openings := Option (List Opening)

namespace Openings

def countLimit : Nat :=
  250

def start : Openings :=
  some [{ bytes := [] }]

def unfinished (s : Openings) : Openings :=
  s.map (List.map Opening.unfinished)

def allUnfinished (s : Openings) : Bool :=
  s.all fun os => os.all fun o => !o.whole

/-- The openings of either; those of the first are more wanted. If they are too many, four bytes
have to be enough. -/
def either (a b : Openings) : Openings :=
  match a, b with
  | some xs, some ys =>
    if xs.length + ys.length ≤ countLimit then some (Opening.joinEqual (xs ++ ys))
    else
      let xs := Opening.joinEqual (xs.map (Opening.cutTo 4))
      let ys := Opening.joinEqual (ys.map (Opening.cutTo 4))
      if xs.length + ys.length ≤ countLimit then some (Opening.joinEqual (xs ++ ys)) else none
  | _, _ => none

def intoUnknown (xs : List Opening) : Openings :=
  if xs.any fun o => o.bytes.isEmpty then none else some (xs.map Opening.unfinished)

/-- The openings of one after the other. Nothing is added to what need not be a whole match. At most
100 bytes are kept. -/
def followedBy (a b : Openings) : Openings :=
  if a.allUnfinished then a
  else
    let together :=
      match a, b with
      | none, _ => none
      | some xs, none => intoUnknown xs
      | some xs, some ys =>
        if countLimit < xs.length * ys.length then intoUnknown xs
        else
          some (Opening.joinEqual (xs.flatMap fun (x : Opening) =>
            if x.whole then ys.map x.append else [x]))
    together.map (List.map (Opening.cutTo 100))

def power (s : Openings) : Nat → Openings
  | 0 => start
  | count + 1 => (power s count).followedBy s

def ofSet (set : Ranges) : Openings :=
  if set.foldr (fun (first, last) n => last + 1 - first + n) 0 ≤ 10 then
    some (set.flatMap fun (first, last) =>
      (List.range' first (last + 1 - first)).map fun n => { bytes := bytesOf (Char.ofNat n) })
  else none

/-- The openings of a repetition. No more than ten rounds are followed. -/
def repeated (greedy : Bool) (least : Nat) (most : Option Nat) (once : Openings) : Openings :=
  match least with
  | 0 =>
    let once := if most = some 1 then once else once.unfinished
    if greedy then once.either start else start.either once
  | least =>
    let rounds := power once (min least 10)
    if most = some least ∧ least ≤ 10 then rounds else rounds.unfinished

end Openings

/-- Where an expression stands: by itself, after something or beside more wanted branches, of which
the openings are known. -/
inductive OpeningPlace where
  | alone
  | after (before : Openings)
  | beside (others : Openings)
  deriving DecidableEq, Repr

def OpeningPlace.close (place : OpeningPlace) (own : Openings) : Openings :=
  match place with
  | .alone => own
  | .after before => before.followedBy own
  | .beside others => others.either own

namespace Expr

/-- The openings of an expression at its place. Sequences and choices go on with what they have at
their place, from left to right. -/
def openings : Expr → OpeningPlace → Openings
  | empty, place => place.close .start
  | literal first rest, place =>
    place.close (some [Opening.cutTo 100 { bytes := (first :: rest).flatMap bytesOf }])
  | one set, place => place.close (.ofSet set)
  | anchor _, place => place.close .start
  | group _ body, place => place.close (body.openings .alone)
  | seq a b, place =>
    match place with
    | .after before => b.openings (.after (before.followedBy (a.openings .alone)))
    | place => place.close (b.openings (.after (Openings.start.followedBy (a.openings .alone))))
  | alt a b, place =>
    match place with
    | .beside others => b.openings (.beside (others.either (a.openings .alone)))
    | place => place.close (b.openings (.beside (Openings.either (some []) (a.openings .alone))))
  | times greedy least most body, place =>
    place.close (.repeated greedy least most (body.openings .alone))

def isPlain : Expr → Bool
  | anchor _ => false
  | group _ _ => false
  | seq a b => a.isPlain && b.isPlain
  | alt a b => a.isPlain && b.isPlain
  | times _ _ _ body => body.isPlain
  | _ => true

end Expr

/-- Bytes that are frequent in texts. All that begin a character outside of ASCII count. -/
def isFrequent (b : Nat) : Bool :=
  0x80 ≤ b || "\n\r (),-./0129:_abcdefghilmnoprstuvxy|".toList.any fun c => c.toNat == b

def isEverywhere (b : Nat) : Bool :=
  0x80 ≤ b || " et".toList.any fun c => c.toNat == b

/-- Cuts many openings shorter and shorter: each pair says how many may stay as long as they are,
and to how many bytes more of them are cut. -/
def shortened : List (Nat × Nat) → List Opening → List Opening
  | [], os => os
  | (enough, count) :: attempts, os =>
    if os.length ≤ enough then os
    else shortened attempts (Opening.dropCovered [] (os.map (Opening.cutTo count)))

/-- Whether openings that are all whole matches are looked up as they are. Many of them are cut
short, unless the short ones would be too few bytes, too frequent or still too many. -/
def keepsWhole (os : List Opening) : Bool :=
  let short := shortened [(10, 5), (10, 4), (64, 3), (64, 2), (10, 1)] os
  short.all Opening.whole || short.any (fun o => o.bytes.length ≤ 2) || 64 < short.length ||
    short.any fun o => match o.bytes with
      | [b] => isEverywhere b
      | _ => false

/-- The openings that are looked for. Those that begin alike with a few bytes, of which the first is
not frequent, are cut to that byte, and otherwise to what they have in common if that is long or if
they are many. -/
def soughtOpenings (openings : List Opening) : List Opening :=
  let os := Opening.dropCovered [] openings
  let shared := Opening.sharedBytes os
  let few := os.length ≤ 16 && os.all Opening.whole
  if 1 < openings.length && 1 ≤ shared.length && shared.length ≤ 3 &&
      !isFrequent (shared.headD 0) then os.map (Opening.cutTo 1)
  else if 4 < shared.length || (1 < shared.length && !few) then
    os.map (Opening.cutTo shared.length)
  else os

def textsOf? (openings : List Opening) : Option (List Opening) :=
  let os := soughtOpenings openings
  if os.isEmpty || openings.any (fun o => o.bytes.isEmpty) then none
  else if os.all Opening.whole && keepsWhole os then some os
  else none

namespace Expr

def ofOpening (o : Opening) : Expr :=
  match String.fromUTF8? (ByteArray.mk (o.bytes.map Nat.toUInt8).toArray) with
  | some text => sequence (text.toList.map char)
  | none => one []

def isLongList (e : Expr) : Bool :=
  3000 ≤ e.branches.length && e.branches.all fun b => match b with
    | literal _ _ => true
    | _ => false

/-- The same expression as a choice between texts, if it is one: the texts are looked up without an
automaton. -/
def texts? (e : Expr) : Option Expr :=
  if !e.isPlain then none
  else
    match (e.openings .alone).bind fun os => textsOf? (Opening.joinEqual os) with
    | some os => some (choice (os.map ofOpening))
    | none => if e.isLongList then some e else none

end Expr

end PartitionScan.Pattern
