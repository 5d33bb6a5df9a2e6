import PartitionScan.Registry

/-!
# The latest registration counts

A registry puts what it is told in front of what it knows, by name and by extension, so that an
answer is about the last of all languages given to it that have the name, or list the extension. A
name to which an extension leads is always known. The language known by it need not list the
extension: one of the same name may have been given later, and what the earlier one listed is not
taken back.
-/
namespace PartitionScan

section

variable {α : Type}

theorem getLast?_filter_cons (p : α → Bool) (x : α) (xs : List α) :
    ((x :: xs).filter p).getLast? =
      ((xs.filter p).getLast?).or (if p x = true then some x else none) := by
  by_cases h : p x = true
  · rw [List.filter_cons_of_pos h, List.getLast?_cons, if_pos h]
    cases (xs.filter p).getLast? <;> rfl
  · rw [List.filter_cons_of_neg h, if_neg h, Option.or_none]

/-- The last item with a property stands before none that has it. -/
theorem getLast?_filter_eq_some_iff {p : α → Bool} {x : α} {xs : List α} :
    (xs.filter p).getLast? = some x ↔
      p x = true ∧ ∃ before after, xs = before ++ x :: after ∧ ∀ y ∈ after, p y = false := by
  rw [List.getLast?_filter, List.find?_eq_some_iff_append]
  refine and_congr_right fun _ => ⟨?_, ?_⟩
  · rintro ⟨after, before, hxs, hafter⟩
    refine ⟨before.reverse, after.reverse, ?_, by simpa using hafter⟩
    rw [← List.reverse_reverse xs, hxs]
    simp
  · rintro ⟨before, after, rfl, hafter⟩
    exact ⟨after.reverse, before.reverse, by simp, by simpa using hafter⟩

end

/-- Whether a language lists an extension, letter case aside. -/
def Language.Lists (lang : Language) (extension : String) : Prop :=
  ∃ x ∈ lang.extensions, Text.lowercase x = Text.lowercase extension

instance (lang : Language) (extension : String) : Decidable (lang.Lists extension) :=
  inferInstanceAs (Decidable (∃ x ∈ lang.extensions, _))

namespace Registry

/-- A registry with the languages that were given to it, first to last. It is empty in the beginning
or has the built-in languages. -/
inductive Registered : Registry → List Language → Prop
  | empty : Registered empty []
  | builtin : Registered builtin Language.builtin
  | add {reg : Registry} {langs : List Language} (h : Registered reg langs) (lang : Language) :
      Registered (reg.add lang) (langs ++ [lang])

section

variable {reg : Registry} {langs : List Language}

theorem Registered.eq_addAll (h : Registered reg langs) : reg = Registry.empty.addAll langs := by
  induction h with
  | empty => rfl
  | builtin => rfl
  | add h lang ih => simp [ih, Registry.addAll]

theorem Registered.addAll (h : Registered reg langs) (added : List Language) :
    Registered (reg.addAll added) (langs ++ added) := by
  induction added generalizing reg langs with
  | nil => rwa [List.append_nil]
  | cons lang added ih =>
    rw [List.append_cons]
    exact ih (h.add lang)

theorem language?_add (reg : Registry) (lang : Language) (name : String) :
    (reg.add lang).language? name = if lang.name = name then some lang else reg.language? name := by
  rw [language?, add, List.lookup_cons]
  by_cases h : lang.name = name
  · rw [if_pos h, beq_iff_eq.mpr h.symm]
  · rw [if_neg h, beq_eq_false_iff_ne.mpr (Ne.symm h)]
    rfl

/-- An extension leads to the language that is added if this lists it, else to where it led before.
-/
theorem lookup_extensions_add (reg : Registry) (lang : Language) (extension : String) :
    (reg.add lang).extensions.lookup (Text.lowercase extension) =
      if lang.Lists extension then some lang.name
      else reg.extensions.lookup (Text.lowercase extension) := by
  have hfold (known : List (String × String)) (xs : List String) :
      (xs.foldl (fun known x => (Text.lowercase x, lang.name) :: known) known).lookup
          (Text.lowercase extension) =
        if ∃ x ∈ xs, Text.lowercase x = Text.lowercase extension then some lang.name
        else known.lookup (Text.lowercase extension) := by
    induction xs generalizing known with
    | nil => simp
    | cons x xs ih =>
      rw [List.foldl_cons, ih, List.lookup_cons]
      by_cases h : Text.lowercase x = Text.lowercase extension
      · simp [h]
      · simp [h, beq_eq_false_iff_ne.mpr (Ne.symm h)]
  exact hfold reg.extensions lang.extensions

/-- The last of the languages added that have the name, or else the one known before. -/
theorem language?_addAll (reg : Registry) (langs : List Language) (name : String) :
    (reg.addAll langs).language? name =
      ((langs.filter (·.name = name)).getLast?).or (reg.language? name) := by
  induction langs generalizing reg with
  | nil => rfl
  | cons lang langs ih =>
    rw [addAll, List.foldl_cons, ← addAll, ih, language?_add, getLast?_filter_cons, Option.or_assoc]
    by_cases h : lang.name = name <;> simp [h]

/-- The last of the languages added that list the extension gives its name to it. -/
theorem lookup_extensions_addAll (reg : Registry) (langs : List Language) (extension : String) :
    (reg.addAll langs).extensions.lookup (Text.lowercase extension) =
      (((langs.filter (·.Lists extension)).getLast?).map (·.name)).or
        (reg.extensions.lookup (Text.lowercase extension)) := by
  induction langs generalizing reg with
  | nil => rfl
  | cons lang langs ih =>
    rw [addAll, List.foldl_cons, ← addAll, ih, lookup_extensions_add, getLast?_filter_cons]
    by_cases h : lang.Lists extension
    · cases (langs.filter (·.Lists extension)).getLast? <;> simp [h]
    · simp [h]

theorem Registered.language?_eq (h : Registered reg langs) (name : String) :
    reg.language? name = (langs.filter (·.name = name)).getLast? := by
  rw [h.eq_addAll, language?_addAll]
  exact Option.or_none

theorem Registered.detect_eq (h : Registered reg langs) (path : String) :
    reg.detect path = (Path.extension? path).bind fun extension =>
      ((langs.filter (·.Lists extension)).getLast?).map (·.name) := by
  rw [detect]
  congr 1
  funext extension
  rw [h.eq_addAll, lookup_extensions_addAll]
  exact Option.or_none

/-- The languages given to a registry that list an extension lead to one that is known. -/
theorem Registered.exists_language (h : Registered reg langs) {path name : String}
    (hname : reg.detect path = some name) :
    ∃ lang, lang.name = name ∧ reg.language? name = some lang := by
  rw [h.detect_eq] at hname
  obtain ⟨extension, -, hname⟩ := Option.bind_eq_some_iff.mp hname
  obtain ⟨lang, hlast, hlang⟩ := Option.map_eq_some_iff.mp hname
  have hmem : lang ∈ langs := (List.mem_filter.mp (List.mem_of_getLast? hlast)).1
  have hne : langs.filter (·.name = name) ≠ [] :=
    List.ne_nil_of_mem (List.mem_filter.mpr ⟨hmem, by simpa using hlang⟩)
  have hfound := List.getLast?_eq_some_getLast hne
  refine ⟨_, ?_, (h.language?_eq name).trans hfound⟩
  simpa using (List.mem_filter.mp (List.mem_of_getLast? hfound)).2

/-- A name stands for the last language given under it. A file is taken for the last language that
lists its extension, which stands behind the last dot of its name if something stands before that
dot. A file without an extension, or with one that no language lists, is taken for none. The name
that is told for a file is known, and its partitions are made by the language known by that name. -/
theorem lookups_follow_last_registration (h : Registered reg langs) :
    (∀ name, reg.language? name = (langs.filter (·.name = name)).getLast?) ∧
    (∀ path extension, Path.extension? path = some extension ↔
      ∃ name stem, Path.fileName? path = some name ∧ stem ≠ [] ∧
        name.toList = stem ++ '.' :: extension.toList ∧ '.' ∉ extension.toList) ∧
    (∀ path, reg.detect path = (Path.extension? path).bind fun extension =>
      ((langs.filter (·.Lists extension)).getLast?).map (·.name)) ∧
    (∀ path name, reg.detect path = some name → ∃ lang, lang.name = name ∧
      reg.language? name = some lang ∧ reg.languageOf path = some lang) ∧
    ∀ path, reg.detect path = none → reg.languageOf path = none := by
  refine ⟨h.language?_eq, fun _ _ => Path.extension?_eq_some_iff, h.detect_eq,
    fun path name hname => ?_, fun path hnone => ?_⟩
  · obtain ⟨lang, hlang, hfound⟩ := h.exists_language hname
    refine ⟨lang, hlang, hfound, ?_⟩
    rw [languageOf, hname]
    exact hfound
  · rw [languageOf, hnone]
    rfl

/-- The extension moves from a built-in language to another one, and from there to a language of the
same name as that one. -/
theorem lookups_follow_last_registration_moved :
    let first : Language := { name := "Notes", extensions := ["R", "note"] }
    let second : Language := { name := "Notes", extensions := ["md", "r", "R"] }
    let reg := builtin.addAll [first, second]
    Registered reg (Language.builtin ++ [first, second]) ∧
      reg.detect "src/plot.r" = some "Notes" ∧ reg.languageOf "src/plot.r" = some second ∧
      reg.detect "src/.r" = none ∧ reg.languageOf "src/.r" = none := by
  intro first second reg
  have h : Registered reg (Language.builtin ++ [first, second]) :=
    Registered.builtin.addAll [first, second]
  obtain ⟨hnamed, -, hdetect, hknown, hunknown⟩ := lookups_follow_last_registration h
  have hlists : [first, second].filter (·.Lists "r") = [first, second] := by decide +kernel
  have hplot : reg.detect "src/plot.r" = some "Notes" := by
    have hextension : Path.extension? "src/plot.r" = some "r" := by decide +kernel
    rw [hdetect, hextension, Option.bind_some, List.filter_append, hlists, List.getLast?_append]
    rfl
  have hnone : reg.detect "src/.r" = none := by
    have hextension : Path.extension? "src/.r" = none := by decide +kernel
    rw [hdetect, hextension]
    rfl
  obtain ⟨lang, -, hlang, hpartitioned⟩ := hknown _ _ hplot
  rw [hnamed, List.filter_append, List.getLast?_append] at hlang
  obtain rfl : second = lang := by simpa [first, second] using hlang
  exact ⟨h, hplot, hpartitioned, hnone, hunknown _ hnone⟩

/-- A file is taken for the language of its extension by the name that the language was given under.
The language known by that name still lists the extension exactly if none of that name was given
behind the last one that lists it. -/
theorem detected_lists_extension_iff (h : Registered reg langs) {path extension name : String}
    (hextension : Path.extension? path = some extension) (hname : reg.detect path = some name) :
    ∃ before lang after known, langs = before ++ lang :: after ∧ lang.name = name ∧
      lang.Lists extension ∧ (∀ l ∈ after, ¬ l.Lists extension) ∧
      reg.language? name = some known ∧ (known.Lists extension ↔ ∀ l ∈ after, l.name ≠ name) := by
  rw [h.detect_eq, hextension, Option.bind_some] at hname
  obtain ⟨lang, hlast, rfl⟩ := Option.map_eq_some_iff.mp hname
  obtain ⟨hlists, before, after, rfl, hafter⟩ := getLast?_filter_eq_some_iff.mp hlast
  simp only [decide_eq_true_eq, decide_eq_false_iff_not] at hlists hafter
  have hknown := h.language?_eq lang.name
  rw [List.append_cons, List.filter_append, List.getLast?_append] at hknown
  cases hlater : (after.filter (·.name = lang.name)).getLast? with
  | none =>
    -- Nothing of the name comes later, so that the name is still that of the language itself.
    have hnone : ∀ l ∈ after, l.name ≠ lang.name := by
      simpa [List.getLast?_eq_none_iff] using hlater
    refine ⟨before, lang, after, lang, rfl, rfl, hlists, hafter, ?_, iff_of_true hlists hnone⟩
    rw [hknown, hlater, List.filter_append]
    simp
  | some known =>
    have hmem := List.mem_filter.mp (List.mem_of_getLast? hlater)
    have hname : known.name = lang.name := by simpa using hmem.2
    refine ⟨before, lang, after, known, rfl, rfl, hlists, hafter, ?_,
      iff_of_false (hafter known hmem.1) fun hnone => hnone known hmem.1 hname⟩
    rw [hknown, hlater, Option.some_or]

/-- Another language came later, but it has another name. -/
theorem detected_lists_extension_iff_kept :
    let notes : Language := { name := "Notes", extensions := ["TODO", "note"] }
    let plain : Language := { name := "Text", extensions := ["note", "txt"] }
    let reg := (empty.add notes).add plain
    Registered reg [notes, plain] ∧ Path.extension? "list.todo" = some "todo" ∧
      reg.detect "list.todo" = some "Notes" ∧
      ∃ known, reg.language? "Notes" = some known ∧ known.Lists "todo" := by
  intro notes plain reg
  have h : Registered reg [notes, plain] := .add (.add .empty notes) plain
  have hextension : Path.extension? "list.todo" = some "todo" := by decide +kernel
  have hname : reg.detect "list.todo" = some "Notes" := by decide +kernel
  obtain ⟨before, lang, after, known, hlangs, -, -, hafter, hknown, hiff⟩ :=
    detected_lists_extension_iff h hextension hname
  refine ⟨h, hextension, hname, known, hknown, hiff.mpr fun l hl => ?_⟩
  have hmem : l ∈ [notes, plain] := by simp [hlangs, hl]
  rw [List.mem_cons, List.mem_singleton] at hmem
  rcases hmem with rfl | rfl
  · have hlists : notes.Lists "todo" := by decide +kernel
    exact absurd hlists (hafter _ hl)
  · decide

/-- The second language takes the name of the first one, and not its extension. -/
theorem detected_language_lists_another_extension :
    let first : Language := { name := "Notes", extensions := ["todo"] }
    let second : Language := { name := "Notes", extensions := ["note"] }
    let reg := (empty.add first).add second
    Registered reg [first, second] ∧ Path.extension? "list.todo" = some "todo" ∧
      reg.detect "list.todo" = some "Notes" ∧ reg.language? "Notes" = some second ∧
      ¬ second.Lists "todo" := by
  intro first second reg
  refine ⟨.add (.add .empty first) second, ?_, ?_, ?_, ?_⟩ <;> decide +kernel

end

end Registry

end PartitionScan
