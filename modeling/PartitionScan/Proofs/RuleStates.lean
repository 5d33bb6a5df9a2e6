import Mathlib.Data.List.Nodup
import PartitionScan.Language.Builtin
import PartitionScan.Language.LineSpans
import PartitionScan.Proofs.DeclaredRules

/-!
# States of block rules

A line that ends inside a construct hands on the id of its rule and nothing else. To find the rule
again takes ids that differ from each other and from the state outside of all constructs. The
built-in languages have such ids, and so have all languages that settings define.
-/
namespace PartitionScan

namespace Language

/-- A language whose block rules are told from each other, and from being outside of all, by their
states. -/
structure HasDistinctStates (lang : Language) : Prop where
  nodup : (lang.blocks.map (·.id)).Nodup
  ne_zero : ∀ r ∈ lang.blocks, r.id ≠ 0

variable {lang : Language}

section

variable {r : BlockRule} (hids : lang.HasDistinctStates) (hr : r ∈ lang.blocks)
include hids hr

/-- The state of a rule finds the rule. -/
theorem block?_id : lang.block? r.id = some r := by
  have hsome : (lang.block? r.id).isSome := by
    rw [block?, List.find?_isSome]
    exact ⟨r, hr, by simp⟩
  obtain ⟨q, hq⟩ := Option.isSome_iff_exists.mp hsome
  have hid : q.id = r.id := by simpa using List.find?_some hq
  rw [hq, List.inj_on_of_nodup_map hids.nodup (List.mem_of_find?_eq_some hq) hr hid]

theorem enclosing?_id : lang.enclosing? r.id = some r := by
  rw [enclosing?, if_neg (hids.ne_zero r hr), block?_id hids hr]

theorem kindOfState_id : lang.kindOfState r.id = some r.kind := by
  rw [kindOfState, block?_id hids hr]
  rfl

end

theorem HasDistinctStates.kindOfState_zero (hids : lang.HasDistinctStates) :
    lang.kindOfState 0 = none := by
  rw [kindOfState, block?, Option.map_eq_none_iff, List.find?_eq_none]
  simpa using hids.ne_zero

/-- Ids that stand in order among distinct ones are distinct. -/
theorem HasDistinctStates.of_sublist (ids : List Nat) (hids : (0 :: ids).Nodup)
    (h : (lang.blocks.map (·.id)).Sublist ids) : lang.HasDistinctStates := by
  rw [List.nodup_cons] at hids
  refine ⟨hids.2.sublist h, fun r hr hzero => hids.1 ?_⟩
  rw [← hzero]
  exact h.subset (List.mem_map_of_mem hr)

/-- A malformed rule is left out, and the others keep their ids. -/
theorem hasDistinctStates_define {name : String} {extensions : List String}
    {blocks : List (Except Fault BlockRule)} {lines : List (Except Fault LineRule)} {ids : List Nat}
    (h : List.Forall₂ (fun block id => ∀ r, block = .ok r → r.id = id) blocks ids)
    (hids : (0 :: ids).Nodup) : (define name extensions blocks lines).HasDistinctStates := by
  refine .of_sublist ids hids ?_
  rw [define, ofRules_eq]
  clear hids
  induction h with
  | nil => exact .slnil
  | @cons block id blocks ids hblock _ ih =>
    cases block with
    | error fault => exact ih.cons id
    | ok r =>
      rw [← hblock r rfl]
      exact ih.cons_cons r.id

theorem hasDistinctStates_builtin : ∀ lang ∈ builtin, lang.HasDistinctStates := by
  have id_of_make {name opening closing kind : String} {id : Nat} {escape : Option Char} :
      ∀ r, BlockRule.make name opening closing kind id escape = .ok r → r.id = id :=
    fun _ h => (BlockRule.make_eq_ok_iff.mp h).2.2.2.2.1
  simp only [builtin, List.forall_mem_cons, List.not_mem_nil, false_implies, implies_true, and_true]
  refine ⟨?_, ?_, ?_, ?_, ?_⟩
  · exact hasDistinctStates_define
      (.cons id_of_make (.cons id_of_make (.cons id_of_make .nil))) (by decide)
  · exact hasDistinctStates_define
      (.cons id_of_make (.cons id_of_make (.cons id_of_make (.cons id_of_make .nil)))) (by decide)
  · exact hasDistinctStates_define (.cons id_of_make (.cons id_of_make .nil)) (by decide)
  · exact hasDistinctStates_define
      (.cons id_of_make (.cons id_of_make (.cons id_of_make (.cons id_of_make .nil)))) (by decide)
  · exact hasDistinctStates_define
      (.cons id_of_make (.cons id_of_make (.cons id_of_make (.cons id_of_make .nil)))) (by decide)

end Language

namespace Settings

open Toml (Value Entries)

/-- The places of tables stand in order among all places. -/
theorem sublist_places (values : List Value) :
    ((tablesAmong values).map Prod.snd).Sublist (List.range values.length) := by
  have hplaces : ((tablesAmong values).map Prod.snd).Sublist (values.zipIdx.map Prod.snd) := by
    rw [tablesAmong]
    induction values.zipIdx with
    | nil => exact .slnil
    | cons entry rest ih =>
      obtain ⟨v, place⟩ := entry
      cases htable : v.table? with
      | none => simpa [htable] using ih.cons place
      | some entries => simpa [htable] using ih
  rwa [List.zipIdx_map_snd, ← List.range_eq_range'] at hplaces

theorem mem_tablesAmong {values : List Value} {table : Entries} {place : Nat} :
    (table, place) ∈ tablesAmong values ↔ values[place]?.bind Value.table? = some table := by
  simp [tablesAmong, List.mem_zipIdx_iff_getElem?, Option.bind_eq_some_iff]

variable {root table : Entries} {lang : Language} {settings : Settings}

namespace DeclaresLanguage

theorem ids_eq (h : DeclaresLanguage table lang) :
    lang.blocks.map (·.id) = (tablesAmong (arrayAt table "block")).map (·.2 + 1) := by
  have hids : List.Forall₂ Eq ((tablesAmong (arrayAt table "block")).map (·.2 + 1))
      (lang.blocks.map (·.id)) := by
    rw [List.forall₂_map_left_iff, List.forall₂_map_right_iff]
    exact h.blocks.imp fun _ _ hr => hr.id.symm
  rw [List.forall₂_eq_eq_eq] at hids
  exact hids.symm

theorem ids_increasing (h : DeclaresLanguage table lang) :
    (lang.blocks.map (·.id)).Pairwise (· < ·) := by
  have hplaces : ((tablesAmong (arrayAt table "block")).map Prod.snd).Pairwise (· < ·) :=
    List.pairwise_lt_range.sublist (sublist_places _)
  rw [h.ids_eq]
  rw [List.pairwise_map] at hplaces ⊢
  exact hplaces.imp Nat.succ_lt_succ

theorem id_mem_range (h : DeclaresLanguage table lang) {r : BlockRule} (hr : r ∈ lang.blocks) :
    1 ≤ r.id ∧ r.id ≤ 255 := by
  obtain ⟨block, -, hblock⟩ := exists_of_mem_right h.blocks hr
  have := hblock.place_lt
  have := hblock.id
  omega

theorem hasDistinctStates (h : DeclaresLanguage table lang) : lang.HasDistinctStates where
  nodup := h.ids_increasing.imp Nat.ne_of_lt
  ne_zero r hr hzero := by
    have := h.id_mem_range hr
    omega

end DeclaresLanguage

theorem hasDistinctStates_ofEntries {root : Entries} (h : ofEntries root = .ok settings) :
    ∀ lang ∈ settings.languages, lang.HasDistinctStates := by
  intro lang hlang
  obtain ⟨item, -, table, -, hdeclared⟩ := exists_of_mem_right (languages_ofEntries h) hlang
  exact hdeclared.hasDistinctStates

/-- The settings of a document have a language for each of its tables of languages. The block rules
of a language stand in the order of their tables and have growing ids from 1 to 255, by each of
which its rule is found. There is no rule for the state outside of all constructs. A table behind
255 other places has no id left, and the document makes no settings. -/
theorem block_states_identify_rules (root : Entries) :
    (∀ settings, ofEntries root = .ok settings →
      List.Forall₂
        (fun item lang => ∃ table, item.table? = some table ∧
          List.Forall₂ (fun block r => DeclaresBlock block.1 block.2 r)
            (tablesAmong (arrayAt table "block")) lang.blocks ∧
          (lang.blocks.map (·.id)).Pairwise (· < ·) ∧
          (∀ r ∈ lang.blocks, 1 ≤ r.id ∧ r.id ≤ 255 ∧ lang.block? r.id = some r) ∧
          lang.kindOfState 0 = none)
        (arrayAt root "language") settings.languages) ∧
    ∀ item ∈ arrayAt root "language", ∀ table, item.table? = some table →
      ∀ place block, (arrayAt table "block")[place]?.bind Value.table? = some block → 255 ≤ place →
        ∃ fault, ofEntries root = .error fault := by
  constructor
  · intro settings h
    refine (languages_ofEntries h).imp fun item lang => ?_
    rintro ⟨table, htable, hdeclared⟩
    have hids := hdeclared.hasDistinctStates
    refine ⟨table, htable, hdeclared.blocks, hdeclared.ids_increasing, fun r hr => ?_,
      hids.kindOfState_zero⟩
    exact ⟨(hdeclared.id_mem_range hr).1, (hdeclared.id_mem_range hr).2, Language.block?_id hids hr⟩
  · intro item hitem table htable place block hblock hplace
    cases h : ofEntries root with
    | error fault => exact ⟨fault, rfl⟩
    | ok settings =>
      obtain ⟨lang, -, table', htable', hdeclared⟩ :=
        exists_of_mem_left (languages_ofEntries h) hitem
      obtain rfl : table = table' := by simpa [htable] using htable'
      obtain ⟨r, -, hr⟩ := exists_of_mem_left hdeclared.blocks (mem_tablesAmong.mpr hblock)
      have := hr.place_lt
      dsimp only at this
      omega

/-- A place without a table is passed over, and its id is not given. -/
theorem block_states_identify_rules_gap :
    let rule : Value := .table .header
      [("name", .string "string"), ("start", .string "\""), ("end", .string "\""),
        ("partition", .string "__sh_string")]
    let language (blocks : List Value) : Value :=
      .table .header [("name", .string "Sh"), ("block", .array .header blocks)]
    let root (blocks : List Value) : Entries := [("language", .array .header [language blocks])]
    (∃ settings lang, ofEntries (root [rule, .integer 0, rule]) = .ok settings ∧
      settings.languages = [lang] ∧ lang.blocks.map (·.id) = [1, 3] ∧
      ∀ r ∈ lang.blocks, lang.block? r.id = some r) ∧
    ∃ fault, ofEntries (root (List.replicate 255 (.integer 0) ++ [rule])) = .error fault := by
  intro rule language root
  constructor
  · have hok : (ofEntries (root [rule, .integer 0, rule])).toBool = true := by decide +kernel
    cases h : ofEntries (root [rule, .integer 0, rule]) with
    | error fault =>
      rw [h] at hok
      cases hok
    | ok settings =>
      obtain ⟨lang, _, ⟨table, htable, hblocks, -, hfound, -⟩, hnil, hlanguages⟩ :=
        List.forall₂_cons_left_iff.mp ((block_states_identify_rules _).1 settings h)
      cases htable
      cases hnil
      obtain ⟨first, _, hfirst, hblocks, heq⟩ := List.forall₂_cons_left_iff.mp hblocks
      obtain ⟨last, _, hlast, hnil, rfl⟩ := List.forall₂_cons_left_iff.mp hblocks
      cases hnil
      refine ⟨settings, lang, rfl, hlanguages, ?_, fun r hr => (hfound r hr).2.2⟩
      rw [heq, List.map_cons, List.map_singleton, hfirst.id, hlast.id]
  · exact (block_states_identify_rules _).2 _ List.mem_cons_self _ rfl 255 _ rfl (Nat.le_refl 255)

end Settings

end PartitionScan
