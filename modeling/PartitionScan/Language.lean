import PartitionScan.Rule

/-!
# Languages

A language is a named set of rules, with the extensions of the files written in it.
-/
namespace PartitionScan

/-- Block rules in the order in which they win ties, and line rules from the highest priority to the
lowest. -/
structure Language where
  name : String
  extensions : List String := []
  blocks : List BlockRule := []
  lines : List LineRule := []
  deriving DecidableEq, Repr, Inhabited

namespace Language

def addExtension (lang : Language) (extension : String) : Language :=
  { lang with extensions := lang.extensions ++ [extension] }

def addBlock (lang : Language) (rule : BlockRule) : Language :=
  { lang with blocks := lang.blocks ++ [rule] }

/-- Puts a rule behind those of at least its priority. -/
def insertRule (rule : LineRule) : List LineRule → List LineRule
  | [] => [rule]
  | r :: rest => if rule.priority ≤ r.priority then r :: insertRule rule rest else rule :: r :: rest

/-- Rules from the highest priority to the lowest; those of one priority stay in their order. -/
def byPriority (rules : List LineRule) : List LineRule :=
  rules.foldl (fun sorted rule => insertRule rule sorted) []

/-- The rules are sorted again with every rule that comes. -/
def addLine (lang : Language) (rule : LineRule) : Language :=
  { lang with lines := byPriority (lang.lines ++ [rule]) }

def block? (lang : Language) (id : Nat) : Option BlockRule :=
  lang.blocks.find? (·.id == id)

/-- The kind of the construct that a line left in this state is inside of. -/
def kindOfState (lang : Language) (state : Nat) : Option String :=
  (lang.block? state).map (·.kind)

def kinds (lang : Language) : List String :=
  (lang.blocks.map (·.kind) ++ lang.lines.map (·.kind)).eraseDups

def ofRules (name : String) (extensions : List String) (blocks : List BlockRule)
    (lines : List LineRule) : Language :=
  lines.foldl addLine (blocks.foldl addBlock (extensions.foldl addExtension { name }))

end Language

end PartitionScan
