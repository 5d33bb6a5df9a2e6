import PartitionScan.Proofs.DeclaredRules

/-!
# Line rules in the order of their declared priorities

A document may declare any priority of 64 bits, but a rule keeps 32 of them and is sorted by these.
The rules of a language therefore stand in the order that is declared for them if no two priorities
change sides, and priorities that fit in 32 bits never do.
-/
namespace PartitionScan

/-- Reading a text is reading its characters. A mark of the byte order may stand in front of them.
-/
theorem Toml.readDocument_ofList (cs : List Char) :
    readDocument (String.ofList cs) =
      let cs :=
        match cs with
        | '\uFEFF' :: rest => rest
        | cs => cs
      (readLines (cs.length + 1) [] [] cs).bind entriesWithDates := by
  have hcs : (String.ofList cs).toList = cs := String.toList_ofList
  generalize String.ofList cs = text at hcs ⊢
  subst hcs
  rfl

namespace Settings

open Toml (Entries)

def Fits (n : Int) : Prop := -2147483648 ≤ n ∧ n ≤ 2147483647

theorem keptPriority_of_fits {n : Int} (h : Fits n) : keptPriority n = n := by
  obtain ⟨hmin, hmax⟩ := h
  have hsize : UInt32.size = 4294967296 := rfl
  exact Int.bmod_eq_of_le (by omega) (by omega)

/-- The line rules of a language are those that its tables declare, from the highest priority that
is declared to the lowest. Rules of one priority stand in the order of their tables. -/
def InDeclaredOrder (table : Entries) (lang : Language) : Prop :=
  ∃ sorted, SortedStably declaredPriority (lineTables table) sorted ∧
    List.Forall₂ DeclaresLine sorted lang.lines

/-- The line rules of each language stand in the stable order of the priorities that are kept for
them. This is the order of the declared ones exactly if keeping 32 bits of two priorities never
changes which of two rules comes to stand first. Nothing changes if all priorities fit in 32 bits.
-/
theorem lines_keep_declared_order (root : Entries) (settings : Settings)
    (h : ofEntries root = .ok settings) :
    List.Forall₂
      (fun item lang => ∃ table, item.table? = some table ∧
        (∃ sorted,
          SortedStably (fun line => keptPriority (declaredPriority line)) (lineTables table)
            sorted ∧
          List.Forall₂
            (fun line r => DeclaresLine line r ∧ r.priority = keptPriority (declaredPriority line))
            sorted lang.lines ∧
          (SortedStably declaredPriority (lineTables table) sorted ↔
            (lineTables table).Pairwise fun x y => (declaredPriority x < declaredPriority y ↔
              keptPriority (declaredPriority x) < keptPriority (declaredPriority y)))) ∧
        ((∀ line ∈ lineTables table, Fits (declaredPriority line)) → InDeclaredOrder table lang))
      (arrayAt root "language") settings.languages := by
  refine (languages_ofEntries h).imp fun item lang => ?_
  rintro ⟨table, htable, hdeclared⟩
  obtain ⟨rules, hrules, hlines⟩ := hdeclared.lines
  obtain ⟨sorted, hsorted, hrules⟩ :=
    SortedStably.exists_forall₂ hrules (fun line r hr => hr.2.symm) hlines
  refine ⟨table, htable, ⟨sorted, hsorted, hrules, hsorted.iff_pairwise declaredPriority⟩,
    fun hfits => ?_⟩
  refine ⟨sorted, hsorted.key_congr fun line hline => ?_, hrules.imp fun _ _ hr => hr.1⟩
  exact (keptPriority_of_fits (hfits line hline)).symm

/-- Rules that are declared from the highest priority to the lowest stay in their order. -/
theorem InDeclaredOrder.of_descending {table : Entries} {lang : Language}
    (h : InDeclaredOrder table lang)
    (hdescending : (lineTables table).Pairwise fun x y => declaredPriority y ≤ declaredPriority x) :
    List.Forall₂ DeclaresLine (lineTables table) lang.lines := by
  obtain ⟨sorted, hsorted, hrules⟩ := h
  rwa [hsorted.unique ⟨hdescending, fun _ => rfl⟩] at hrules

def declaredLines (table : Entries) : List (Option String × Int) :=
  (lineTables table).map fun line =>
    ((line.lookup "name").bind Toml.Value.string?, declaredPriority line)

def keptLines (lang : Language) :
    List (String × Int) := lang.lines.map fun r => (r.name, r.priority)

/-- The text has one table of a language, and makes settings with one language. -/
structure OnlyLanguage (text : String) (table : Entries) (lang : Language) : Prop where
  document : ∃ root item, Toml.readDocument text = some root ∧ arrayAt root "language" = [item] ∧
    item.table? = some table
  settings : ∃ settings, ofToml text = .ok settings ∧ settings.languages = [lang]

theorem exists_onlyLanguage {text : String} {declared : List (Option String × Int)}
    {kept : List (String × Int)}
    (hread : (Toml.readDocument text).map (fun root => (arrayAt root "language").map fun item =>
      item.table?.map declaredLines) = some [some declared])
    (hok : (ofToml text).toOption.map (fun settings => settings.languages.map keptLines) =
      some [kept]) :
    ∃ table lang, OnlyLanguage text table lang ∧ declaredLines table = declared ∧
      keptLines lang = kept := by
  obtain ⟨root, hroot, hitems⟩ := Option.map_eq_some_iff.mp hread
  obtain ⟨item, hitem, htable⟩ := List.map_eq_singleton_iff.mp hitems
  obtain ⟨table, htable, hdeclared⟩ := Option.map_eq_some_iff.mp htable
  obtain ⟨settings, hsettings, hlanguages⟩ := Option.map_eq_some_iff.mp hok
  obtain ⟨lang, hlang, hkept⟩ := List.map_eq_singleton_iff.mp hlanguages
  have hok : ofToml text = .ok settings := by
    cases h : ofToml text <;> simp_all [Except.toOption]
  exact ⟨table, lang, ⟨⟨root, item, hroot, hitem, htable⟩, settings, hok, hlang⟩, hdeclared, hkept⟩

/-- The rule for tags comes second in the document and first in the language. -/
theorem lines_keep_declared_order_swapped :
    let text := "[[language]]\nname = \"R\"\n
[[language.line]]\nname = \"comment\"\npattern = \"#\"\npartition = \"comment\"\npriority = 100\n
[[language.line]]\nname = \"tag\"\npattern = \"#'\"\npartition = \"tag\"\npriority = 2147483647\n"
    ∃ table lang, OnlyLanguage text table lang ∧
      declaredLines table = [(some "comment", 100), (some "tag", 2147483647)] ∧
      keptLines lang = [("tag", 2147483647), ("comment", 100)] ∧ InDeclaredOrder table lang := by
  intro text
  obtain ⟨table, lang, honly, hdeclared, hkept⟩ :
      ∃ table lang, OnlyLanguage text table lang ∧
        declaredLines table = [(some "comment", 100), (some "tag", 2147483647)] ∧
        keptLines lang = [("tag", 2147483647), ("comment", 100)] :=
    exists_onlyLanguage (by rw [Toml.readDocument_ofList]; decide +kernel)
      (by rw [ofToml, Toml.readDocument_ofList]; decide +kernel)
  refine ⟨table, lang, honly, hdeclared, hkept, ?_⟩
  obtain ⟨⟨root, item, hroot, hitem, htable⟩, settings, hok, hlang⟩ := honly
  have hentries : ofEntries root = .ok settings := by rwa [ofToml, hroot] at hok
  have hall := lines_keep_declared_order root settings hentries
  rw [hitem, hlang, List.forall₂_cons] at hall
  obtain ⟨⟨table', htable', -, hfits⟩, -⟩ := hall
  obtain rfl : table = table' := Option.some.inj (htable.symm.trans htable')
  refine hfits fun line hline => ?_
  have hmem : declaredPriority line ∈ (declaredLines table).map Prod.snd := by
    rw [declaredLines, List.map_map]
    exact List.mem_map_of_mem hline
  simp only [hdeclared, List.map_cons, List.map_nil, List.mem_cons, List.not_mem_nil,
    or_false] at hmem
  rw [Fits]
  omega

/-- The rule that is declared first, with the higher priority, stands last. -/
theorem priority_beyond_32_bits_goes_last :
    let text := "[[language]]\nname = \"Notes\"\n
[[language.line]]\nname = \"todo\"\npattern = \"TODO\"\npartition = \"todo\"
priority = 2147483648\n
[[language.line]]\nname = \"comment\"\npattern = \"#\"\npartition = \"comment\"\npriority = 1\n"
    ∃ table lang, OnlyLanguage text table lang ∧
      declaredLines table = [(some "todo", 2147483648), (some "comment", 1)] ∧
      keptLines lang = [("comment", 1), ("todo", -2147483648)] ∧ ¬ InDeclaredOrder table lang := by
  intro text
  obtain ⟨table, lang, honly, hdeclared, hkept⟩ :
      ∃ table lang, OnlyLanguage text table lang ∧
        declaredLines table = [(some "todo", 2147483648), (some "comment", 1)] ∧
        keptLines lang = [("comment", 1), ("todo", -2147483648)] :=
    exists_onlyLanguage (by rw [Toml.readDocument_ofList]; decide +kernel)
      (by rw [ofToml, Toml.readDocument_ofList]; decide +kernel)
  refine ⟨table, lang, honly, hdeclared, hkept, fun horder => ?_⟩
  have hdescending : ((declaredLines table).map Prod.snd).Pairwise fun m n => n ≤ m := by
    simp [hdeclared]
  rw [declaredLines, List.map_map, List.pairwise_map] at hdescending
  have hnames : (declaredLines table).map Prod.fst = (keptLines lang).map (some ·.1) := by
    rw [declaredLines, keptLines, List.map_map, List.map_map, ← List.forall₂_eq_eq_eq,
      List.forall₂_map_left_iff, List.forall₂_map_right_iff]
    exact (horder.of_descending hdescending).imp fun _ _ hr => text_eq_some_iff.mpr hr.name
  simp [hdeclared, hkept] at hnames

end Settings

end PartitionScan
