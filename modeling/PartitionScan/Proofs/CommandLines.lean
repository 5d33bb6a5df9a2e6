import PartitionScan.Command.Options

/-!
# Command lines as lists of items

A command line is read from left to right, one item at a time: an option with the argument behind it
as its value, whatever that looks like, or a positional argument. What is read in the end tells the
positional arguments in their order and the last value of each option, and nothing of how they were
mixed.
-/
namespace PartitionScan.Command

def Slot.spellings : Slot → List String
  | .config => ["--config", "-c"]
  | .language => ["--language", "-l"]
  | .partition => ["--partition", "-p"]

theorem Slot.ofArgument_eq_some_iff {argument : String} {slot : Slot} :
    ofArgument argument = some slot ↔ argument ∈ slot.spellings := by
  unfold ofArgument
  split <;> cases slot <;> simp_all [spellings]

/-- Whether an argument stands for itself: it is empty or a single dash, or does not begin with a
dash. -/
def IsPositional (argument : String) : Prop :=
  argument = "" ∨ argument = "-" ∨ argument.toList.head? ≠ some '-'

theorem isOptionLike_eq_false_iff {argument : String} :
    isOptionLike argument = false ↔ IsPositional argument := by
  rw [IsPositional, ← String.toList_inj, ← String.toList_inj, isOptionLike]
  match argument.toList with
  | [] => simp
  | c :: rest =>
    by_cases hc : c = '-'
    · subst hc
      cases rest <;> simp
    · simp [hc]

/-- No option can be taken for a positional argument. -/
theorem isOptionLike_of_mem_spellings {argument : String} {slot : Slot}
    (h : argument ∈ slot.spellings) : isOptionLike argument = true := by
  cases slot <;> simp only [Slot.spellings, List.mem_cons, List.not_mem_nil, or_false] at h <;>
    rcases h with rfl | rfl <;> decide

theorem IsPositional.ofArgument {argument : String} (h : IsPositional argument) :
    Slot.ofArgument argument = none := by
  rw [Option.eq_none_iff_forall_not_mem]
  intro slot hslot
  have hlike := isOptionLike_of_mem_spellings (Slot.ofArgument_eq_some_iff.mp hslot)
  rw [isOptionLike_eq_false_iff.mpr h] at hlike
  cases hlike

/-- What stands together on a command line. -/
inductive Item where
  | option (slot : Slot) (spelling : String) (h : spelling ∈ slot.spellings) (value : String)
  | positional (argument : String) (h : IsPositional argument)

namespace Item

def arguments : Item → List String
  | option _ spelling _ value => [spelling, value]
  | positional argument _ => [argument]

def positional? : Item → Option String
  | option .. => none
  | positional argument _ => some argument

def value? (slot : Slot) : Item → Option String
  | option own _ _ value => if own = slot then some value else none
  | positional .. => none

end Item

def written (items : List Item) : List String := items.flatMap Item.arguments

def positionals (items : List Item) : List String := items.filterMap Item.positional?

/-- The value that an option is given last. -/
def lastValue (slot : Slot) (items : List Item) : Option String :=
  (items.filterMap (Item.value? slot)).getLast?

theorem lastValue_cons (slot : Slot) (item : Item) (items : List Item) :
    lastValue slot (item :: items) = (lastValue slot items).or (item.value? slot) := by
  rw [lastValue, List.filterMap_cons, lastValue]
  cases item.value? slot with
  | none => rw [Option.or_none]
  | some value =>
    rw [List.getLast?_cons]
    cases (items.filterMap (Item.value? slot)).getLast? <;> rfl

namespace Draft

def value (d : Draft) : Slot → Option String
  | .config => d.config
  | .language => d.language
  | .partition => d.partition

def take (d : Draft) : Item → Draft
  | .option slot _ _ value => d.set value slot
  | .positional argument _ => { d with positional := d.positional ++ [argument] }

theorem value_set (d : Draft) (v : String) (slot slot' : Slot) :
    (d.set v slot').value slot = if slot' = slot then some v else d.value slot := by
  cases slot <;> cases slot' <;> rfl

theorem value_take (d : Draft) (item : Item) (slot : Slot) :
    (d.take item).value slot = (item.value? slot).or (d.value slot) := by
  cases item with
  | option own spelling h v =>
    rw [take, value_set, Item.value?]
    split <;> rfl
  | positional argument h => cases slot <;> rfl

theorem positional_take (d : Draft) (item : Item) :
    (d.take item).positional = d.positional ++ item.positional?.toList := by
  cases item with
  | option own spelling h v => cases own <;> simp [take, set, Item.positional?]
  | positional argument h => rfl

/-- Reading begins with the first item, and goes on behind it. -/
theorem read_item (d : Draft) (item : Item) (rest : List String) :
    d.read (item.arguments ++ rest) = (d.take item).read rest := by
  cases item with
  | option slot spelling h v =>
    rw [Item.arguments, List.cons_append, read, Slot.ofArgument_eq_some_iff.mpr h]
    rfl
  | positional argument h =>
    rw [Item.arguments, List.cons_append, read, h.ofArgument, isOptionLike_eq_false_iff.mpr h]
    rfl

/-- Items are read one after the other. -/
theorem read_written (d : Draft) (items : List Item) :
    d.read (written items) = .ok (items.foldl take d) := by
  induction items generalizing d with
  | nil => rfl
  | cons item items ih =>
    rw [written, List.flatMap_cons, read_item, ← written, ih]
    rfl

/-- Only items are read. -/
theorem exists_items {d d' : Draft} {arguments : List String} (h : d.read arguments = .ok d') :
    ∃ items, written items = arguments := by
  fun_induction read d arguments with
  | case1 => exact ⟨[], rfl⟩
  | case2 => cases h
  | case3 d argument slot hslot value rest ih =>
    obtain ⟨items, rfl⟩ := ih h
    exact ⟨.option slot argument (Slot.ofArgument_eq_some_iff.mp hslot) value :: items, rfl⟩
  | case4 => cases h
  | case5 d argument rest hslot hlike ih =>
    obtain ⟨items, rfl⟩ := ih h
    exact ⟨.positional argument (isOptionLike_eq_false_iff.mp (by simpa using hlike)) :: items, rfl⟩

theorem value_foldl_take (d : Draft) (items : List Item) (slot : Slot) :
    (items.foldl take d).value slot = (lastValue slot items).or (d.value slot) := by
  induction items generalizing d with
  | nil => rfl
  | cons item items ih => rw [List.foldl_cons, ih, value_take, lastValue_cons, Option.or_assoc]

theorem positional_foldl_take (d : Draft) (items : List Item) :
    (items.foldl take d).positional = d.positional ++ positionals items := by
  induction items generalizing d with
  | nil => exact (List.append_nil _).symm
  | cons item items ih =>
    rw [List.foldl_cons, ih, positional_take, List.append_assoc, positionals, positionals,
      List.filterMap_cons]
    cases item.positional? <;> rfl

end Draft

namespace Options

def value (o : Options) : Slot → Option String
  | .config => o.config
  | .language => o.language
  | .partition => o.partition

/-- What items say when they are read: the first two positional arguments are the file and the
command, and the options have their last values. -/
theorem read_written (items : List Item) :
    read (written items) =
      match positionals items with
      | file :: command :: arguments => .ok {
          config := lastValue .config items
          language := lastValue .language items
          partition := lastValue .partition items
          file, command, arguments }
      | _ => .error .incomplete := by
  have hpositional := Draft.positional_foldl_take {} items
  have hvalue (slot : Slot) : (items.foldl Draft.take {}).value slot = lastValue slot items := by
    rw [Draft.value_foldl_take]
    cases slot <;> exact Option.or_none
  have hconfig := hvalue .config
  have hlanguage := hvalue .language
  have hpartition := hvalue .partition
  simp only [Draft.value] at hconfig hlanguage hpartition
  rw [read, Draft.read_written, ← hconfig, ← hlanguage, ← hpartition,
    ← List.nil_append (positionals items), ← hpositional]
  rfl

theorem read_written_eq_ok_iff {items : List Item} {o : Options} :
    read (written items) = .ok o ↔
      positionals items = o.file :: o.command :: o.arguments ∧
        ∀ slot, o.value slot = lastValue slot items := by
  rw [read_written]
  constructor
  · intro h
    split at h
    next hpositional =>
      obtain rfl := Except.ok.inj h
      refine ⟨hpositional, fun slot => ?_⟩
      cases slot <;> rfl
    next => cases h
  · rintro ⟨hpositional, hvalue⟩
    simp only [hpositional, ← hvalue]
    rfl

/-- A command line is read exactly if it is a list of items with two positional arguments or more.
The file, the command and its arguments are then the positional arguments in their order, and an
option has the value that it is given last. Items that agree in this are read alike, however they
are mixed. -/
theorem read_accepts_items :
    (∀ arguments : List String, (∃ o, read arguments = .ok o) ↔
      ∃ items, arguments = written items ∧ 2 ≤ (positionals items).length) ∧
    (∀ (items : List Item) (o : Options), read (written items) = .ok o →
      positionals items = o.file :: o.command :: o.arguments ∧
        ∀ slot, o.value slot = lastValue slot items) ∧
    ∀ items items' : List Item, positionals items' = positionals items →
      (∀ slot, lastValue slot items' = lastValue slot items) →
      read (written items') = read (written items) := by
  refine ⟨fun arguments => ⟨?_, ?_⟩, fun items o => read_written_eq_ok_iff.mp, ?_⟩
  · rintro ⟨o, h⟩
    have hread : ∃ d, Draft.read {} arguments = .ok d := by
      cases hd : Draft.read {} arguments with
      | error fault =>
        rw [read, hd] at h
        cases h
      | ok d => exact ⟨d, rfl⟩
    obtain ⟨d, hd⟩ := hread
    obtain ⟨items, rfl⟩ := Draft.exists_items hd
    refine ⟨items, rfl, ?_⟩
    rw [(read_written_eq_ok_iff.mp h).1]
    simp
  · rintro ⟨items, rfl, hlength⟩
    rw [read_written]
    match positionals items, hlength with
    | file :: command :: arguments, _ => exact ⟨_, rfl⟩
  · intro items items' hpositional hvalue
    rw [read_written, read_written, hpositional, hvalue, hvalue, hvalue]

-- A value may look like an option, and a dash is a file.
example : (read ["-", "-c", "-l", "count", "--config", "x.toml", "a"]).toOption =
    some ⟨some "x.toml", none, none, "-", "count", ["a"]⟩ := by decide

end Options

end PartitionScan.Command
