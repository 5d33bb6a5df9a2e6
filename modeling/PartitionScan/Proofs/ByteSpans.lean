import PartitionScan.Language.ByteLoop
import PartitionScan.Proofs.LineSpans

/-!
# Spans in bytes

With the search of `Pattern.find`, the loop over the bytes of a line makes the spans of
`Language.lineSpans`. A turn of the loop is one step of the recursion on places: bytes are in the
order of the places they begin, so that the same opening is the earliest and the same place is the
next.
-/
namespace PartitionScan

/-- A span is added in bytes where it is added by places. -/
theorem pushSpan_append_inBytes {text : List Char} {start finish : Nat}
    (hstart : start ≤ text.length) (hfinish : finish ≤ text.length) (spans : List Span)
    (kind : String) (rest : LineSpans) :
    pushSpan spans (byteOffset text start) (byteOffset text finish) kind ++
        (rest.inBytes text).spans =
      spans ++ ((rest.cons start finish kind).inBytes text).spans := by
  rw [pushSpan, LineSpans.cons]
  simp only [byteOffset_lt_iff hstart hfinish]
  split
  · rw [List.append_assoc]
    rfl
  · rfl

theorem LineSpans.state_cons (start finish : Nat) (kind : String) (rest : LineSpans) :
    (rest.cons start finish kind).state = rest.state := by
  rw [LineSpans.cons]
  split <;> rfl

namespace Engine

variable {text : List Char}

theorem findBeforeEnd_own (p : Pattern) (text : List Char) (i : Nat) :
    own.findBeforeEnd p text (byteOffset text i) =
      (p.findBeforeEnd text.toArray i).map fun m => (byteOffset text m.1, byteOffset text m.2) := by
  rw [findBeforeEnd, Pattern.findBeforeEnd, List.size_toArray]
  by_cases hi : i < text.length
  · rw [if_pos (byteOffset_lt_byteLength_iff.mpr hi), if_pos hi, own]
    simp only [placeOfByte_byteOffset (Nat.le_of_lt hi)]
  · rw [if_neg (mt byteOffset_lt_byteLength_iff.mp hi), if_neg hi, Option.map_none]

/-- The escapes at the end of a slice are those that stand side by side before a place. -/
theorem length_takeWhile_slice (escape : Char) {start i : Nat} (hle : start ≤ i)
    (hi : i ≤ text.length) :
    (((text.drop start).take (i - start)).reverse.takeWhile (· == escape)).length =
      BlockRule.escapesBefore text.toArray escape start i := by
  induction i with
  | zero => simp [BlockRule.escapesBefore]
  | succ i ih =>
    rw [BlockRule.escapesBefore, List.getElem?_toArray]
    by_cases hstart : start ≤ i
    · have hslice : (text.drop start).take (i + 1 - start) =
          (text.drop start).take (i - start) ++ [text[i]] := by
        rw [Nat.succ_sub hstart, List.take_succ_eq_append_getElem (by simp; omega)]
        simp [Nat.add_sub_of_le hstart]
      rw [hslice, List.reverse_append, List.reverse_singleton, List.singleton_append,
        List.takeWhile_cons, ← ih hstart (Nat.le_of_succ_le hi), List.getElem?_eq_getElem hi]
      by_cases hc : text[i] = escape <;> simp [hc, hstart]
    · rw [if_neg (fun h => hstart h.1), Nat.sub_eq_zero_of_le (by omega)]
      simp

/-- One turn of the search for an end is one look of the search by places. -/
theorem endTurn_own (p : Pattern) (text : List Char) (escape : Char) {start i : Nat}
    (hle : start ≤ i) :
    own.endTurn p text escape (byteOffset text start) (byteOffset text i) =
      some (match p.findBeforeEnd text.toArray i with
        | none => .inr none
        | some (first, finish) =>
          if BlockRule.escapesBefore text.toArray escape start first % 2 = 0 then
            .inr (some (byteOffset text finish))
          else .inl (byteOffset text (max finish (i + 1)))) := by
  rw [endTurn, findBeforeEnd_own]
  cases hm : p.findBeforeEnd text.toArray i with
  | none => rfl
  | some m =>
    obtain ⟨hfirst, hlast, hsize⟩ := Pattern.findBeforeEnd_bounds hm
    rw [List.size_toArray] at hsize
    have hslice := slice?_byteOffset (Nat.le_trans hle hfirst) (Nat.le_trans hlast hsize)
    have hescapes := length_takeWhile_slice escape (Nat.le_trans hle hfirst)
      (Nat.le_trans hlast hsize)
    simp only [Option.map_some, hslice, hescapes, Option.bind_eq_bind, Option.bind_some,
      Option.pure_def]
    split
    · rfl
    · by_cases hmoved : i < m.2
      · rw [if_pos ((byteOffset_lt_iff (by omega) hsize).mpr hmoved), Nat.max_eq_left hmoved]
      · rw [if_neg (mt (byteOffset_lt_iff (by omega) hsize).mp hmoved),
          nextBoundary?_byteOffset (by omega), Nat.max_eq_right (by omega)]
        rfl

theorem loop_endTurn_own (p : Pattern) (text : List Char) (escape : Char) (start i : Nat)
    (hle : start ≤ i) {n : Nat} (hn : byteLength text - byteOffset text i < n) :
    loop (own.endTurn p text escape (byteOffset text start)) n (byteOffset text i) =
      some ((BlockRule.findUnescaped p text.toArray escape start i).map (byteOffset text)) := by
  have hturn := endTurn_own p text escape hle
  rw [Pattern.findBeforeEnd] at hturn
  fun_induction BlockRule.findUnescaped p text.toArray escape start i generalizing n with
  | case1 i hi hnone => exact loop_inr (by rw [hturn, if_pos hi, hnone]; rfl) (by omega)
  | case2 i hi first finish hfind heven =>
    refine loop_inr ?_ (by omega)
    rw [hturn, if_pos hi, hfind]
    simp only [if_pos heven]
    rfl
  | case3 i hi first finish hfind hodd ih =>
    have hnext : start ≤ max finish (i + 1) := by omega
    have hleft := byteLength_sub_lt (by simpa using hi) (Nat.le_max_right finish (i + 1))
    rw [← ih hnext (n := n - 1) (by omega) (endTurn_own p text escape hnext)]
    refine loop_inl ?_ (by omega)
    rw [hturn, if_pos hi, hfind]
    simp only [if_neg hodd]
  | case4 i hi => exact loop_inr (by rw [hturn, if_neg hi]; rfl) (by omega)

theorem findEnd_own (r : BlockRule) (text : List Char) (i : Nat) :
    own.findEnd r text (byteOffset text i) =
      some ((r.findEnd text.toArray i).map (byteOffset text)) := by
  rw [findEnd, BlockRule.findEnd]
  cases r.escape with
  | some escape =>
    exact loop_endTurn_own r.closing text escape i i (Nat.le_refl i)
      (Nat.lt_succ_of_le (Nat.sub_le _ _))
  | none =>
    simp only [findBeforeEnd_own, Option.map_map]
    rfl

end Engine

def Language.Opening.inBytes (text : List Char) : Opening → Opening
  | .line rule start finish => .line rule (byteOffset text start) (byteOffset text finish)
  | .block rule start finish => .block rule (byteOffset text start) (byteOffset text finish)

theorem Language.Opening.start_inBytes (text : List Char) (o : Opening) :
    (o.inBytes text).start = byteOffset text o.start := by
  cases o <;> rfl

/-- The earliest opening is the same in bytes. -/
theorem Language.earliest_inBytes (text : List Char) (os : List Opening)
    (h : ∀ o ∈ os, o.start ≤ text.length) :
    earliest (os.map (Opening.inBytes text)) = (earliest os).map (Opening.inBytes text) := by
  induction os with
  | nil => rfl
  | cons o os ih =>
    rw [List.map_cons, earliest, earliest, ih fun p hp => h p (List.mem_cons_of_mem o hp)]
    cases hrest : earliest os with
    | none => rfl
    | some p =>
      have hp := h p (List.mem_cons_of_mem o (earliest_mem hrest))
      simp only [Option.map_some, Opening.start_inBytes,
        byteOffset_lt_iff hp (h o List.mem_cons_self)]
      split <;> rfl

namespace Engine

open PartitionScan.Language (Opening earliest)

theorem openings_own (lang : Language) (text : List Char) (i : Nat) :
    own.openings lang text (byteOffset text i) =
      (lang.openings text.toArray i).map (Opening.inBytes text) := by
  simp only [openings, Language.openings, findBeforeEnd_own, List.map_append, List.map_filterMap,
    Option.map_map, BlockRule.findStart, LineRule.find]
  rfl

theorem earliest_openings_own (lang : Language) (text : List Char) (i : Nat) :
    earliest (own.openings lang text (byteOffset text i)) =
      (lang.nextOpening text.toArray i).map (Opening.inBytes text) := by
  rw [openings_own, Language.nextOpening, Language.earliest_inBytes]
  intro o ho
  have := Language.openings_bounds ho
  rw [List.size_toArray] at this
  omega

/-- After a turn that adds a span, the loop adds those that are left behind it. -/
theorem loop_lineTurn_cons {lang : Language} {i start finish next state : Nat} {kind : String}
    {spans : List Span} {rest : LineSpans} {n : Nat}
    (hturn : own.lineTurn lang text ⟨spans, byteOffset text i, state⟩ =
      some (.inl ⟨pushSpan spans (byteOffset text start) (byteOffset text finish) kind,
        byteOffset text next, 0⟩))
    (hi : i < text.length) (hstart : start ≤ text.length) (hfinish : finish ≤ text.length)
    (hnext : i < next) (hn : byteLength text - byteOffset text i < n)
    (hrest : ∀ (spans : List Span) {n : Nat}, byteLength text - byteOffset text next < n →
      loop (own.lineTurn lang text) n ⟨spans, byteOffset text next, 0⟩ =
        some ⟨spans ++ (rest.inBytes text).spans, rest.state⟩) :
    loop (own.lineTurn lang text) n ⟨spans, byteOffset text i, state⟩ =
      some ⟨spans ++ ((rest.cons start finish kind).inBytes text).spans,
        (rest.cons start finish kind).state⟩ := by
  have hleft := byteLength_sub_lt hi hnext
  rw [loop_inl hturn (by omega), hrest _ (by omega), pushSpan_append_inBytes hstart hfinish,
    LineSpans.state_cons]

/-- From any turn on, the loop adds the spans that are left. -/
theorem loop_lineTurn_own (lang : Language) (text : List Char) (i state : Nat) (spans : List Span)
    {n : Nat} (hn : byteLength text - byteOffset text i < n) :
    loop (own.lineTurn lang text) n ⟨spans, byteOffset text i, state⟩ =
      some ⟨spans ++ ((lang.spansFrom text.toArray i state).inBytes text).spans,
        (lang.spansFrom text.toArray i state).state⟩ := by
  fun_induction Language.spansFrom lang text.toArray i state generalizing spans n with
  | case1 i state hi rule hrule finish hfinish ih =>
    have hbounds := BlockRule.findEnd_bounds hfinish
    rw [List.size_toArray] at hi hbounds
    refine loop_lineTurn_cons ?_ hi (Nat.le_of_lt hi) hbounds.2 (Nat.le_max_right _ _) hn ih
    simp [lineTurn, byteOffset_lt_byteLength_iff, hi, hrule, findEnd_own, hfinish,
      nextBoundary?_byteOffset (Nat.le_of_lt hi), byteOffset_max]
  | case2 i state hi rule hrule hopen =>
    rw [List.size_toArray] at hi ⊢
    have hlt := byteOffset_lt_byteLength_iff.mpr hi
    refine loop_inr ?_ (by omega)
    simp only [lineTurn, if_pos hlt, hrule, findEnd_own, hopen, pushSpan]
    rfl
  | case3 i state hi hrule hnone =>
    rw [List.size_toArray] at hi
    refine loop_inr ?_ (by omega)
    simp [lineTurn, byteOffset_lt_byteLength_iff, hi, hrule, earliest_openings_own, hnone,
      LineSpans.inBytes]
  | case4 i state hi hrule rule start finish hnext ih =>
    have hbounds : i ≤ start ∧ start ≤ finish ∧ finish ≤ text.toArray.size :=
      Language.nextOpening_bounds hnext
    rw [List.size_toArray] at hi hbounds
    have hstart : start ≤ text.length := Nat.le_trans hbounds.2.1 hbounds.2.2
    refine loop_lineTurn_cons ?_ hi hstart hbounds.2.2 (by omega) hn ih
    simp [lineTurn, byteOffset_lt_byteLength_iff, hi, hrule, earliest_openings_own, hnext,
      Opening.inBytes, nextBoundary?_byteOffset hstart, byteOffset_max]
  | case5 i state hi hrule rule start opened hnext finish hfinish ih =>
    have hbounds : i ≤ start ∧ start ≤ opened ∧ opened ≤ text.toArray.size :=
      Language.nextOpening_bounds hnext
    have hclose := BlockRule.findEnd_bounds hfinish
    rw [List.size_toArray] at hi hbounds hclose
    have hstart : start ≤ text.length := Nat.le_trans hbounds.2.1 hbounds.2.2
    refine loop_lineTurn_cons ?_ hi hstart hclose.2 (by omega) hn ih
    simp [lineTurn, byteOffset_lt_byteLength_iff, hi, hrule, earliest_openings_own, hnext,
      Opening.inBytes, findEnd_own, hfinish, nextBoundary?_byteOffset hstart, byteOffset_max]
  | case6 i state hi hrule rule start opened hnext hopen =>
    have hbounds : i ≤ start ∧ start ≤ opened ∧ opened ≤ text.toArray.size :=
      Language.nextOpening_bounds hnext
    rw [List.size_toArray] at hi hbounds ⊢
    refine loop_inr ?_ (by omega)
    rw [← pushSpan_append_inBytes (Nat.le_trans hbounds.2.1 hbounds.2.2) (Nat.le_refl text.length),
      LineSpans.state_cons, ← byteLength]
    simp [lineTurn, byteOffset_lt_byteLength_iff, hi, hrule, earliest_openings_own, hnext,
      Opening.inBytes, findEnd_own, hopen, LineSpans.inBytes]
  | case7 i state hi =>
    rw [List.size_toArray] at hi
    refine loop_inr ?_ (by omega)
    simp [lineTurn, byteOffset_lt_byteLength_iff, hi, LineSpans.inBytes]

end Engine

/-- Whatever searches for the patterns, the loop over a line ends, cuts the text between characters
only and makes well-formed spans. With the search of the patterns themselves it makes the spans of
the line. -/
theorem Language.lineSpans_loop_ends_well_formed (lang : Language) (text : List Char)
    (state : Nat) :
    (∀ e : Engine, ∃ r, e.lineSpans lang text state = some r ∧ r.WellFormed lang text state) ∧
      Engine.own.lineSpans lang text state = some ((lang.lineSpans text state).inBytes text) := by
  refine ⟨fun e => e.lineSpans_spec lang text state, ?_⟩
  have hloop := Engine.loop_lineTurn_own lang text 0 state [] (Nat.lt_succ_of_le (Nat.sub_le _ _))
  rwa [byteOffset_zero, List.nil_append] at hloop

end PartitionScan
