import Mathlib.Data.List.Forall2
import PartitionScan.Proofs.RuleOrder
import PartitionScan.Settings

/-!
# Rules that settings declare

What the readers of settings accept, and what they make of it. The rules of a language have the
texts of their tables and come in the order of the document. Where one of the tables is no rule,
there is no language.
-/
namespace PartitionScan

theorem bind_eq_ok_iff {α β ε : Type} {x : Except ε α} {f : α → Except ε β} {b : β} :
    x.bind f = .ok b ↔ ∃ a, x = .ok a ∧ f a = .ok b := by
  cases x <;> simp [Except.bind]

@[simp] theorem mapError_eq_ok_iff {α ε ε' : Type} {f : ε → ε'} {x : Except ε α} {a : α} :
    x.mapError f = .ok a ↔ x = .ok a := by
  cases x <;> simp [Except.mapError]

theorem map_eq_ok_iff {α β ε : Type} {f : α → β} {x : Except ε α} {b : β} :
    x.map f = .ok b ↔ ∃ a, x = .ok a ∧ f a = b := by
  cases x <;> simp [Except.map]

/-- Items read one after the other give one result each. -/
theorem mapM_eq_ok_iff {α β ε : Type} {f : α → Except ε β} {xs : List α} {ys : List β} :
    xs.mapM f = .ok ys ↔ List.Forall₂ (fun x y => f x = .ok y) xs ys := by
  induction xs generalizing ys with
  | nil => simp [pure, Except.pure, eq_comm]
  | cons x xs ih =>
    rw [List.mapM_cons, List.forall₂_cons_left_iff]
    constructor
    · intro h
      obtain ⟨y, hy, h⟩ := bind_eq_ok_iff.mp h
      obtain ⟨rest, hrest, h⟩ := bind_eq_ok_iff.mp h
      cases h
      exact ⟨y, rest, hy, ih.mp hrest, rfl⟩
    · rintro ⟨y, rest, hy, hrest, rfl⟩
      exact bind_eq_ok_iff.mpr ⟨y, hy, bind_eq_ok_iff.mpr ⟨rest, ih.mpr hrest, rfl⟩⟩

section

variable {α β : Type} {R : α → β → Prop} {xs : List α} {ys : List β}

theorem exists_of_mem_right (h : List.Forall₂ R xs ys) {y : β} (hy : y ∈ ys) : ∃ x ∈ xs, R x y := by
  induction h with
  | nil => cases hy
  | cons hx _ ih =>
    rcases List.mem_cons.mp hy with rfl | hy
    · exact ⟨_, List.mem_cons_self, hx⟩
    · obtain ⟨x, hmem, hx⟩ := ih hy
      exact ⟨x, List.mem_cons_of_mem _ hmem, hx⟩

theorem exists_of_mem_left (h : List.Forall₂ R xs ys) {x : α} (hx : x ∈ xs) : ∃ y ∈ ys, R x y := by
  have hflip : List.Forall₂ (flip R) ys xs := List.Forall₂.flip h
  exact exists_of_mem_right hflip hx

end

theorem compileFor_eq_ok_iff {rule source : String} {p : Pattern} :
    compileFor rule source = .ok p ↔ Pattern.compile source = .ok p :=
  mapError_eq_ok_iff

theorem BlockRule.make_eq_ok_iff {name opening closing kind : String} {id : Nat}
    {escape : Option Char} {r : BlockRule} :
    BlockRule.make name opening closing kind id escape = .ok r ↔
      r.name = name ∧ Pattern.compile opening = .ok r.opening ∧
        Pattern.compile closing = .ok r.closing ∧ r.kind = kind ∧ r.id = id ∧
        r.escape = escape := by
  constructor
  · intro h
    obtain ⟨first, hfirst, h⟩ := bind_eq_ok_iff.mp h
    obtain ⟨last, hlast, h⟩ := bind_eq_ok_iff.mp h
    cases h
    exact ⟨rfl, compileFor_eq_ok_iff.mp hfirst, compileFor_eq_ok_iff.mp hlast, rfl, rfl, rfl⟩
  · obtain ⟨name, opening, closing, kind, escape, id⟩ := r
    rintro ⟨rfl, hopening, hclosing, rfl, rfl, rfl⟩
    refine bind_eq_ok_iff.mpr ⟨_, compileFor_eq_ok_iff.mpr hopening, ?_⟩
    exact bind_eq_ok_iff.mpr ⟨_, compileFor_eq_ok_iff.mpr hclosing, rfl⟩

theorem LineRule.make_eq_ok_iff {name pattern kind : String} {priority : Int} {r : LineRule} :
    LineRule.make name pattern kind priority = .ok r ↔
      r.name = name ∧ Pattern.compile pattern = .ok r.pattern ∧ r.kind = kind ∧
        r.priority = priority := by
  rw [make, map_eq_ok_iff]
  constructor
  · rintro ⟨p, hp, rfl⟩
    exact ⟨rfl, compileFor_eq_ok_iff.mp hp, rfl, rfl⟩
  · obtain ⟨name, p, kind, priority⟩ := r
    rintro ⟨rfl, hp, rfl, rfl⟩
    exact ⟨p, compileFor_eq_ok_iff.mpr hp, rfl⟩

namespace Language

theorem ofRules_eq (name : String) (extensions : List String) (blocks : List BlockRule)
    (lines : List LineRule) :
    ofRules name extensions blocks lines =
      { name, extensions, blocks, lines := byPriority lines } := by
  have hextensions : ∀ (added : List String) (lang : Language),
      added.foldl addExtension lang = { lang with extensions := lang.extensions ++ added } := by
    intro added
    induction added with
    | nil => simp
    | cons extension rest ih => simp [ih, addExtension]
  have hblocks : ∀ (added : List BlockRule) (lang : Language),
      added.foldl addBlock lang = { lang with blocks := lang.blocks ++ added } := by
    intro added
    induction added with
    | nil => simp
    | cons block rest ih => simp [ih, addBlock]
  rw [ofRules, hextensions, hblocks, addLines_eq _ (.inl rfl)]
  simp

end Language

namespace Settings

open Toml (Value Entries)

theorem text_eq_some_iff {entries : Entries} {key s : String} :
    (entries.lookup key).bind Value.string? = some s ↔ entries.lookup key = some (.string s) := by
  cases entries.lookup key with
  | none => simp
  | some v => cases v <;> simp [Value.string?]

theorem requiredText_eq_ok_iff {entries : Entries} {owner key s : String} :
    requiredText entries owner key = .ok s ↔ entries.lookup key = some (.string s) := by
  rw [← text_eq_some_iff, requiredText]
  cases (entries.lookup key).bind Value.string? <;> simp

theorem required_bind_eq_ok_iff {β : Type} {entries : Entries} {owner key : String}
    {f : String → Except Fault β} {b : β} :
    ((requiredText entries owner key).mapError Fault.setting).bind f = .ok b ↔
      ∃ s, entries.lookup key = some (.string s) ∧ f s = .ok b := by
  simp only [bind_eq_ok_iff, mapError_eq_ok_iff, requiredText_eq_ok_iff]

theorem oneChar_eq_ok_iff {key text : String} {c : Char} :
    oneChar key text = .ok c ↔ text = String.singleton c := by
  rw [← String.toList_inj, String.toList_singleton, oneChar]
  split <;> simp_all

/-- The table at a place among the block rules of a language declares a rule. -/
structure DeclaresBlock (block : Entries) (place : Nat) (r : BlockRule) : Prop where
  name : block.lookup "name" = some (.string r.name)
  opening : ∃ source, block.lookup "start" = some (.string source) ∧
    Pattern.compile source = .ok r.opening
  closing : ∃ source, block.lookup "end" = some (.string source) ∧
    Pattern.compile source = .ok r.closing
  kind : block.lookup "partition" = some (.string r.kind)
  /-- Anything but a text counts as no escape. -/
  escape : (block.lookup "escape").bind Value.string? = r.escape.map String.singleton
  place_lt : place < 255
  id : r.id = place + 1

/-- The priority that the table of a line rule declares; anything but an integer counts as 0. -/
def declaredPriority (line : Entries) : Int :=
  match line.lookup "priority" with
  | some (.integer n) => n
  | _ => 0

/-- The number with the same low 32 bits, read with a sign. -/
def keptPriority (n : Int) : Int := Int.bmod n UInt32.size

structure DeclaresLine (line : Entries) (r : LineRule) : Prop where
  name : line.lookup "name" = some (.string r.name)
  pattern : ∃ source, line.lookup "pattern" = some (.string source) ∧
    Pattern.compile source = .ok r.pattern
  kind : line.lookup "partition" = some (.string r.kind)

theorem blockRuleOf_eq_ok_iff {language : String} {block : Entries} {place : Nat} {r : BlockRule} :
    blockRuleOf language block place = .ok r ↔ DeclaresBlock block place r := by
  constructor
  · intro h
    obtain ⟨name, hname, h⟩ := required_bind_eq_ok_iff.mp h
    obtain ⟨opening, hopening, h⟩ := required_bind_eq_ok_iff.mp h
    obtain ⟨closing, hclosing, h⟩ := required_bind_eq_ok_iff.mp h
    obtain ⟨kind, hkind, h⟩ := required_bind_eq_ok_iff.mp h
    dsimp only at h
    by_cases hplace : 255 < place + 1
    · rw [if_pos hplace] at h
      cases h
    · rw [if_neg hplace] at h
      split at h
      next s hs =>
        obtain ⟨escape, hescape, h⟩ := bind_eq_ok_iff.mp h
        simp only [mapError_eq_ok_iff, map_eq_ok_iff, oneChar_eq_ok_iff] at hescape
        obtain ⟨c, rfl, rfl⟩ := hescape
        obtain ⟨rfl, ho, hc, rfl, hid, hescape⟩ := BlockRule.make_eq_ok_iff.mp h
        exact ⟨hname, ⟨opening, hopening, ho⟩, ⟨closing, hclosing, hc⟩, hkind,
          by rw [hs, hescape]; rfl,
          by omega, hid⟩
      next hs =>
        obtain ⟨escape, hescape, h⟩ := bind_eq_ok_iff.mp h
        cases hescape
        obtain ⟨rfl, ho, hc, rfl, hid, hescape⟩ := BlockRule.make_eq_ok_iff.mp h
        exact ⟨hname, ⟨opening, hopening, ho⟩, ⟨closing, hclosing, hc⟩, hkind,
          by rw [hs, hescape]; rfl,
          by omega, hid⟩
  · rintro ⟨hname, ⟨opening, hopening, ho⟩, ⟨closing, hclosing, hc⟩, hkind, hescape, hplace, hid⟩
    refine required_bind_eq_ok_iff.mpr ⟨r.name, hname, ?_⟩
    refine required_bind_eq_ok_iff.mpr ⟨opening, hopening, ?_⟩
    refine required_bind_eq_ok_iff.mpr ⟨closing, hclosing, ?_⟩
    refine required_bind_eq_ok_iff.mpr ⟨r.kind, hkind, ?_⟩
    have hmake : BlockRule.make r.name opening closing r.kind (place + 1) r.escape = .ok r :=
      BlockRule.make_eq_ok_iff.mpr ⟨rfl, ho, hc, rfl, hid, rfl⟩
    dsimp only
    rw [if_neg (by omega), hescape]
    cases hr : r.escape with
    | none => exact bind_eq_ok_iff.mpr ⟨none, rfl, hr ▸ hmake⟩
    | some c =>
      refine bind_eq_ok_iff.mpr ⟨some c, ?_, hr ▸ hmake⟩
      simp [map_eq_ok_iff, oneChar_eq_ok_iff]

theorem declaredPriority_eq (line : Entries) :
    ((line.lookup "priority").bind Value.integer?).getD 0 = declaredPriority line := by
  rw [declaredPriority]
  cases line.lookup "priority" with
  | none => rfl
  | some v => cases v <;> rfl

theorem lineRuleOf_eq_ok_iff {line : Entries} {r : LineRule} :
    lineRuleOf line = .ok r ↔
      DeclaresLine line r ∧ r.priority = keptPriority (declaredPriority line) := by
  constructor
  · intro h
    obtain ⟨name, hname, h⟩ := required_bind_eq_ok_iff.mp h
    obtain ⟨pattern, hpattern, h⟩ := required_bind_eq_ok_iff.mp h
    obtain ⟨kind, hkind, h⟩ := required_bind_eq_ok_iff.mp h
    obtain ⟨rfl, hp, rfl, hpriority⟩ := LineRule.make_eq_ok_iff.mp h
    exact ⟨⟨hname, ⟨pattern, hpattern, hp⟩, hkind⟩, declaredPriority_eq line ▸ hpriority⟩
  · rintro ⟨⟨hname, ⟨pattern, hpattern, hp⟩, hkind⟩, hpriority⟩
    refine required_bind_eq_ok_iff.mpr ⟨r.name, hname, ?_⟩
    refine required_bind_eq_ok_iff.mpr ⟨pattern, hpattern, ?_⟩
    refine required_bind_eq_ok_iff.mpr ⟨r.kind, hkind, ?_⟩
    refine LineRule.make_eq_ok_iff.mpr ⟨rfl, hp, rfl, ?_⟩
    rw [hpriority, declaredPriority_eq]
    rfl

def lineTables (table : Entries) : List Entries := (tablesAmong (arrayAt table "line")).map Prod.fst

/-- What a table says of a language. Its block rules stand in the order of their tables, and its
line rules in that of the priorities that are kept. -/
structure DeclaresLanguage (table : Entries) (lang : Language) : Prop where
  name : table.lookup "name" = some (.string lang.name)
  extensions : lang.extensions = (arrayAt table "extensions").filterMap Value.string?
  blocks : List.Forall₂ (fun block r => DeclaresBlock block.1 block.2 r)
    (tablesAmong (arrayAt table "block")) lang.blocks
  lines : ∃ rules, List.Forall₂
    (fun line r => DeclaresLine line r ∧ r.priority = keptPriority (declaredPriority line))
    (lineTables table) rules ∧ SortedStably (·.priority) rules lang.lines

theorem languageOf_eq_ok_iff {table : Entries} {lang : Language} :
    languageOf table = .ok lang ↔ DeclaresLanguage table lang := by
  constructor
  · intro h
    obtain ⟨name, hname, h⟩ := required_bind_eq_ok_iff.mp h
    obtain ⟨blocks, hblocks, h⟩ := bind_eq_ok_iff.mp h
    obtain ⟨rules, hrules, h⟩ := bind_eq_ok_iff.mp h
    cases h
    simp only [mapM_eq_ok_iff, blockRuleOf_eq_ok_iff] at hblocks
    simp only [mapM_eq_ok_iff, lineRuleOf_eq_ok_iff] at hrules
    rw [Language.ofRules_eq]
    refine ⟨hname, rfl, hblocks, rules, ?_, Language.sortedStably_byPriority rules⟩
    exact List.forall₂_map_left_iff.mpr hrules
  · obtain ⟨name, extensions, blocks, lines⟩ := lang
    rintro ⟨hname, rfl, hblocks, rules, hrules, hsorted⟩
    obtain rfl := hsorted.unique (Language.sortedStably_byPriority rules)
    refine required_bind_eq_ok_iff.mpr ⟨name, hname, ?_⟩
    refine bind_eq_ok_iff.mpr
      ⟨blocks, by simpa [mapM_eq_ok_iff, blockRuleOf_eq_ok_iff] using hblocks, ?_⟩
    rw [lineTables, List.forall₂_map_left_iff] at hrules
    refine bind_eq_ok_iff.mpr
      ⟨rules, by simpa [mapM_eq_ok_iff, lineRuleOf_eq_ok_iff] using hrules, ?_⟩
    exact congrArg Except.ok (Language.ofRules_eq _ _ _ _)

theorem languageEntry_eq_ok_iff {item : Value} {lang : Language} :
    languageEntry item = .ok lang ↔
      ∃ table, item.table? = some table ∧ DeclaresLanguage table lang := by
  rw [languageEntry]
  cases item.table? <;> simp [languageOf_eq_ok_iff]

/-- Settings have one language for each item under the key of languages, in order. -/
theorem languages_ofEntries {root : Entries} {settings : Settings}
    (h : ofEntries root = .ok settings) :
    List.Forall₂ (fun item lang => ∃ table, item.table? = some table ∧ DeclaresLanguage table lang)
      (arrayAt root "language") settings.languages := by
  obtain ⟨escape, -, h⟩ := bind_eq_ok_iff.mp h
  obtain ⟨pairs, -, h⟩ := bind_eq_ok_iff.mp h
  obtain ⟨languages, hlanguages, h⟩ := bind_eq_ok_iff.mp h
  cases h
  rw [readSetting] at hlanguages
  rw [arrayAt]
  split at hlanguages
  next v hv =>
    rw [readArray] at hlanguages
    split at hlanguages
    next items hitems =>
      rw [mapM_eq_ok_iff] at hlanguages
      simpa [hv, hitems, ← languageEntry_eq_ok_iff] using hlanguages
    next => cases hlanguages
  next hnone =>
    cases hlanguages
    simp [hnone]

end Settings

end PartitionScan
