import PartitionScan.Language.Builtin
import PartitionScan.Language.Partitioning
import PartitionScan.Proofs.Edits
import PartitionScan.Proofs.KeptSpans
import PartitionScan.Proofs.ByteSpans

/-!
# Partitions say what the lines say

A map is made of the spans of all lines, and none of them is lost: they follow each other, so that
all that hold a character are kept. Thus a character has the kind of the span that holds its first
byte in its line, and a delimiter the kind of the construct that the line ends in.
-/
namespace PartitionScan

namespace PartitionMap

/-- Spans that follow each other are kept, but for the empty ones. -/
theorem keptFrom_of_pairwise {start : Nat} {ps : List Partition}
    (hps : ps.Pairwise fun p q => p.finish ≤ q.offset) (hstart : ∀ p ∈ ps, start ≤ p.offset) :
    keptFrom start ps = ps.filter fun p => 0 < p.length := by
  induction ps generalizing start with
  | nil => rfl
  | cons p rest ih =>
    obtain ⟨hfirst, hrest⟩ := List.pairwise_cons.mp hps
    by_cases hp : 0 < p.length
    · rw [keptFrom_of_kept ⟨hp, hstart p List.mem_cons_self⟩, ih hrest hfirst,
        List.filter_cons_of_pos (by simpa using hp)]
    · rw [keptFrom_of_dropped fun h => hp h.1, List.filter_cons_of_neg (by simpa using hp)]
      exact ih hrest fun q hq => hstart q (List.mem_cons_of_mem p hq)

theorem covers_length_pos {p : Partition} {o : Nat} (h : p.Covers o) : 0 < p.length := by
  obtain ⟨hle, hlt⟩ := h
  simp only [Partition.finish] at hlt
  omega

/-- Only the spans that cover an offset decide its kind. -/
theorem isKindAt_congr {ps qs : List Partition} {o : Nat} {kind : String}
    (h : ∀ p : Partition, p.Covers o → (p ∈ ps ↔ p ∈ qs)) :
    IsKindAt ps o kind ↔ IsKindAt qs o kind := by
  constructor
  · rintro ⟨hcovered, hnone⟩
    refine ⟨fun p hp hcovers => hcovered p ((h p hcovers).mpr hp) hcovers, fun hfree => hnone ?_⟩
    exact fun p hp hcovers => hfree p ((h p hcovers).mp hp) hcovers
  · rintro ⟨hcovered, hnone⟩
    refine ⟨fun p hp hcovers => hcovered p ((h p hcovers).mp hp) hcovers, fun hfree => hnone ?_⟩
    exact fun p hp hcovers => hfree p ((h p hcovers).mpr hp) hcovers

theorem isKindAt_filter {ps : List Partition} {o : Nat} {kind : String} :
    IsKindAt (ps.filter fun p => 0 < p.length) o kind ↔ IsKindAt ps o kind := by
  apply isKindAt_congr
  intro p hp
  rw [List.mem_filter]
  simp [covers_length_pos hp]

theorem isKindAt_append {front middle back : List Partition} {o : Nat} {kind : String}
    (hfront : ∀ p ∈ front, p.finish ≤ o) (hback : ∀ p ∈ back, o < p.offset) :
    IsKindAt (front ++ (middle ++ back)) o kind ↔ IsKindAt middle o kind := by
  apply isKindAt_congr
  intro p hp
  simp only [List.mem_append]
  constructor
  · rintro (h | h | h)
    · exact absurd hp.2 (Nat.not_lt.mpr (hfront p h))
    · exact h
    · exact absurd hp.1 (Nat.not_le.mpr (hback p h))
  · exact fun h => .inr (.inl h)

end PartitionMap

/-- The kind of the span that holds a place, or the default kind if none does. -/
def LineSpans.kindAt (r : LineSpans) (place : Nat) : String :=
  ((r.spans.find? fun s => s.start ≤ place ∧ place < s.finish).map (·.kind)).getD defaultKind

/-- Counted in bytes, the span that holds a character is the same. -/
theorem LineSpans.kindAt_inBytes {text : List Char} {r : LineSpans} {start : Nat}
    (h : Span.InOrder start r.spans text.length) {i : Nat} (hi : i < text.length) :
    (r.inBytes text).kindAt (byteOffset text i) = r.kindAt i := by
  have hfind : (r.spans.find? fun s => byteOffset text s.start ≤ byteOffset text i ∧
      byteOffset text i < byteOffset text s.finish) =
      r.spans.find? fun s => s.start ≤ i ∧ i < s.finish := by
    rw [← List.head?_filter, ← List.head?_filter]
    refine congrArg List.head? (List.filter_congr fun s hs => ?_)
    obtain ⟨-, hlt, hle⟩ := h.inside s hs
    have hstart : s.start ≤ text.length := by omega
    simp only [byteOffset_le_iff hstart (Nat.le_of_lt hi), byteOffset_lt_iff (Nat.le_of_lt hi) hle]
  rw [kindAt, kindAt, inBytes, List.find?_map, Option.map_map]
  exact congrArg (fun found => (Option.map Span.kind found).getD defaultKind) hfind

namespace LineSpans

def kindsFrom (r : LineSpans) (start finish : Nat) : List String :=
  (List.range' start (finish - start)).map r.kindAt

variable {r rest : LineSpans} {start first last finish : Nat} {kind : String}

theorem kindsFrom_append {middle : Nat} (hstart : start ≤ middle) (hfinish : middle ≤ finish) :
    r.kindsFrom start finish = r.kindsFrom start middle ++ r.kindsFrom middle finish := by
  have hcut := List.range'_append_1 (s := start) (m := middle - start) (n := finish - middle)
  rw [show start + (middle - start) = middle by omega,
    show middle - start + (finish - middle) = finish - start by omega] at hcut
  rw [kindsFrom, kindsFrom, kindsFrom, ← List.map_append, hcut]

theorem kindsFrom_eq_replicate (h : ∀ k, start ≤ k → k < finish → r.kindAt k = kind) :
    r.kindsFrom start finish = List.replicate (finish - start) kind := by
  rw [List.eq_replicate_iff]
  refine ⟨by simp [kindsFrom], fun found hfound => ?_⟩
  obtain ⟨k, hk, rfl⟩ := List.mem_map.mp hfound
  rw [List.mem_range'_1] at hk
  exact h k hk.1 (by omega)

/-- Before the first span there is none. -/
theorem kindAt_of_lt (h : Span.InOrder start r.spans finish) {k : Nat} (hk : k < start) :
    r.kindAt k = defaultKind := by
  have hnone : (r.spans.find? fun s => s.start ≤ k ∧ k < s.finish) = none := by
    rw [List.find?_eq_none]
    intro s hs
    have := (h.inside s hs).1
    simp only [decide_eq_true_eq]
    omega
  rw [kindAt, hnone]
  rfl

theorem kindAt_cons_inside {k : Nat} (hle : first ≤ k) (hlt : k < last) :
    (rest.cons first last kind).kindAt k = kind := by
  rw [cons, if_pos (by omega), kindAt, List.find?_cons_of_pos (by simp; omega)]
  rfl

theorem kindAt_cons_behind {k : Nat} (hle : last ≤ k) :
    (rest.cons first last kind).kindAt k = rest.kindAt k := by
  rw [cons]
  split
  · rw [kindAt, List.find?_cons_of_neg (by simp; omega), ← kindAt]
  · rfl

/-- A span in front of later ones: what lies before it has the default kind. -/
theorem kindsFrom_cons (h : Span.InOrder last rest.spans finish) (hstart : start ≤ first)
    (hlt : first < last) (hfinish : last ≤ finish) :
    (rest.cons first last kind).kindsFrom start finish =
      List.replicate (first - start) defaultKind ++
        (List.replicate (last - first) kind ++ rest.kindsFrom last finish) := by
  have horder : Span.InOrder first (rest.cons first last kind).spans finish :=
    h.cons (Nat.le_refl first) (Nat.le_of_lt hlt) (Nat.le_refl last) hfinish kind
  rw [kindsFrom_append hstart (by omega), kindsFrom_append (Nat.le_of_lt hlt) hfinish,
    kindsFrom_eq_replicate fun k _ hk => kindAt_of_lt horder hk,
    kindsFrom_eq_replicate fun k hk hk' => kindAt_cons_inside hk hk']
  congr 2
  refine List.map_congr_left fun k hk => kindAt_cons_behind ?_
  exact (List.mem_range'_1.mp hk).1

end LineSpans

def Span.inPlaces (text : List Char) (s : Span) : Span :=
  { s with start := placeOfByte text s.start, finish := placeOfByte text s.finish }

namespace Engine

open PartitionMap

variable (e : Engine) (lang : Language)

def placeSpans (text : List Char) (state : Nat) : LineSpans :=
  let result := e.spans lang text state
  { result with spans := result.spans.map (Span.inPlaces text) }

/-- The state in which a run of lines leaves the next, entered in a state. -/
def stateAfter (state : Nat) (lines : List Line) : Nat :=
  lines.foldl (fun state l => (e.spans lang l.content state).state) state

@[simp] theorem state_placeSpans (text : List Char) (state : Nat) :
    (e.placeSpans lang text state).state = (e.spans lang text state).state := rfl

/-- The ends of a span lie between characters, so that no part of it is lost in characters. -/
theorem exists_places {text : List Char} {state : Nat} {s : Span}
    (hs : s ∈ (e.spans lang text state).spans) :
    s.start = byteOffset text (s.inPlaces text).start ∧
      s.finish = byteOffset text (s.inPlaces text).finish ∧
      (s.inPlaces text).start < (s.inPlaces text).finish ∧
      (s.inPlaces text).finish ≤ text.length := by
  have hsound := (e.wellFormed_spans lang text state).sound
  obtain ⟨⟨i, hi, hstart⟩, ⟨j, hj, hfinish⟩⟩ := hsound.boundaries s hs
  have hlt := (hsound.inOrder.inside s hs).2.1
  simp only [Span.inPlaces]
  rw [← hstart, ← hfinish] at hlt ⊢
  rw [placeOfByte_byteOffset hi, placeOfByte_byteOffset hj]
  exact ⟨rfl, rfl, (byteOffset_lt_iff hi hj).mp hlt, hj⟩

/-- Taken to characters, the spans of a line are in order. -/
theorem placeSpans_inOrder (text : List Char) (state : Nat) :
    Span.InOrder 0 (e.placeSpans lang text state).spans text.length where
  inside s hs := by
    obtain ⟨t, ht, rfl⟩ := List.mem_map.mp hs
    obtain ⟨-, -, hlt, hle⟩ := e.exists_places lang ht
    exact ⟨Nat.zero_le _, hlt, hle⟩
  apart := by
    have hsound := (e.wellFormed_spans lang text state).sound
    refine List.pairwise_map.mpr (hsound.inOrder.apart.imp_of_mem fun {s t} hs ht hapart => ?_)
    obtain ⟨-, hfinish, -, hle⟩ := e.exists_places lang hs
    obtain ⟨hstart, -, hlt, hle'⟩ := e.exists_places lang ht
    rw [hfinish, hstart] at hapart
    exact (byteOffset_le_iff hle (by omega)).mp hapart

/-- Nothing is lost on the way to characters and back. -/
theorem inBytes_placeSpans (text : List Char) (state : Nat) :
    (e.placeSpans lang text state).inBytes text = e.spans lang text state := by
  have hback : (e.spans lang text state).spans.map (Span.inBytes text ∘ Span.inPlaces text) =
      (e.spans lang text state).spans := by
    refine (List.map_congr_left fun s hs => ?_).trans (List.map_id _)
    obtain ⟨hstart, hfinish, -, -⟩ := e.exists_places lang hs
    simp only [Function.comp_apply, Span.inBytes, ← hstart, ← hfinish]
    rfl
  rw [LineSpans.inBytes, placeSpans, List.map_map, hback]

/-- The matcher's own spans in characters are those of the recursion on places. -/
theorem placeSpans_own (text : List Char) (state : Nat) :
    own.placeSpans lang text state = lang.lineSpans text state := by
  have hbytes : own.spans lang text state = (lang.lineSpans text state).inBytes text := by
    have hloop := (lang.lineSpans_loop_ends_well_formed text state).2
    rw [lineSpans_eq] at hloop
    exact Option.some.inj hloop
  have hback : (lang.lineSpans text state).spans.map (Span.inPlaces text ∘ Span.inBytes text) =
      (lang.lineSpans text state).spans := by
    refine (List.map_congr_left fun s hs => ?_).trans (List.map_id _)
    obtain ⟨-, hlt, hle⟩ := (lang.lineSpans_inOrder text state).inside s hs
    simp only [Function.comp_apply, Span.inPlaces, Span.inBytes, placeOfByte_byteOffset hle,
      placeOfByte_byteOffset (Nat.le_of_lt (Nat.lt_of_lt_of_le hlt hle))]
    rfl
  rw [placeSpans, hbytes, LineSpans.inBytes]
  simp only [List.map_map, hback]

def spansOfLine (offset state : Nat) (l : Line) : List Partition × Nat :=
  let result := e.placeSpans lang l.content state
  let atEnd := (lang.kindOfState result.state).map fun kind =>
    { kind, offset := offset + l.content.length, length := l.delimiter.length : Partition }
  (result.spans.map (fun s =>
      { kind := s.kind, offset := offset + s.start, length := s.finish - s.start : Partition }) ++
    atEnd.toList, result.state)

def spansOfLines (offset state : Nat) : List Line → List Partition
  | [] => []
  | l :: rest =>
    let (spans, state) := e.spansOfLine lang offset state l
    spans ++ spansOfLines (offset + l.length) state rest

def mapOf (b : Buffer) : PartitionMap :=
  .ofSpans lang.name b.length (e.spansOfLines lang 0 0 b.lines)

/-- A line of a buffer is read whole and typed. -/
theorem typeLine_document {b : Buffer} {line : Nat} (h : line < b.lines.length) (state : Nat) :
    e.typeLine lang b.document line state =
      .ok (e.spansOfLine lang (Buffer.extent (b.lines.take line)) state b.lines[line]) := by
  obtain ⟨length, hlength, hnext⟩ := Buffer.exists_lineLength h
  have hlines := Buffer.extent_take_le_length b (line + 1)
  rw [List.take_succ_eq_append_getElem h, Buffer.extent_append, Buffer.extent_cons,
    Buffer.extent_nil, Line.length] at hnext hlines
  have hcontent : (b.text.drop (Buffer.extent (b.lines.take line))).take
      b.lines[line].content.length = b.lines[line].content := by
    rw [Buffer.text_eq_around h, ← Buffer.length_joined, List.drop_left, Line.chars,
      List.append_assoc, List.take_left]
  have hread : (List.range' (Buffer.extent (b.lines.take line)) b.lines[line].content.length).mapM
      b.charAt = .ok b.lines[line].content := by
    rw [Buffer.mapM_charAt (by omega), hcontent]
  have hdelimiter : length - b.lines[line].content.length = b.lines[line].delimiter.length := by
    omega
  simp only [typeLine, Buffer.document, Buffer.stating, Buffer.lineRegion_eq h, bind, Except.bind,
    hread, spansOfLine, placeSpans, List.map_map]
  cases lang.kindOfState (e.spans lang b.lines[line].content state).state with
  | none => simp [Function.comp_def, Span.placed, Span.inPlaces, pure, Except.pure]
  | some kind =>
    simp [Function.comp_def, Span.placed, Span.inPlaces, pure, Except.pure, hlength, hdelimiter,
      Region.finish]

/-- Partitioning a buffer does not fail. -/
theorem partition_document (b : Buffer) : e.partition lang b.document = .ok (e.mapOf lang b) := by
  have hlines : ∀ back front state, b.lines = front ++ back →
      e.typeLines lang b.document (List.range' front.length back.length) state =
        .ok (e.spansOfLines lang (Buffer.extent front) state back) := by
    intro back
    induction back with
    | nil => exact fun _ _ _ => rfl
    | cons l back ih =>
      intro front state hb
      have hline : front.length < b.lines.length := by
        rw [hb, List.length_append, List.length_cons]
        omega
      have hl : b.lines[front.length] = l := by simp [hb]
      have hfront : b.lines.take front.length = front := by simp [hb]
      have hrest := ih (front ++ [l]) (e.spansOfLine lang (Buffer.extent front) state l).2
        (by rw [hb, List.append_assoc]; rfl)
      rw [List.length_append, Buffer.extent_append] at hrest
      rw [List.length_cons, List.range'_succ, typeLines, e.typeLine_document lang hline, hl, hfront]
      simp only [bind, Except.bind]
      rw [show front.length + 1 = front.length + [l].length from rfl, hrest]
      rfl
  rw [partition, List.range_eq_range', show b.document.lineCount = b.lines.length from rfl,
    show List.range' 0 b.lines.length = List.range' ([] : List Line).length b.lines.length from rfl,
    hlines b.lines [] 0 rfl]
  rfl

/-- The spans of a line lie on it. -/
theorem spansOfLine_inside (offset state : Nat) (l : Line) :
    ∀ p ∈ (e.spansOfLine lang offset state l).1,
      offset ≤ p.offset ∧ p.finish ≤ offset + l.length := by
  intro p hp
  rw [spansOfLine, List.mem_append, List.mem_map, Option.mem_toList, Option.map_eq_some_iff] at hp
  rcases hp with ⟨s, hs, rfl⟩ | ⟨kind, -, rfl⟩
  · obtain ⟨-, hlt, hle⟩ := (e.placeSpans_inOrder lang l.content state).inside s hs
    simp only [Partition.finish, Line.length]
    omega
  · simp only [Partition.finish, Line.length]
    omega

theorem spansOfLine_pairwise (offset state : Nat) (l : Line) :
    (e.spansOfLine lang offset state l).1.Pairwise fun p q => p.finish ≤ q.offset := by
  have horder := e.placeSpans_inOrder lang l.content state
  rw [spansOfLine, List.pairwise_append]
  refine ⟨?_, ?_, ?_⟩
  · rw [List.pairwise_map]
    refine horder.apart.imp_of_mem fun {s t} hs ht hle => ?_
    have := horder.inside s hs
    simp only [Partition.finish]
    omega
  · cases lang.kindOfState (e.placeSpans lang l.content state).state with
    | none => exact .nil
    | some kind => exact List.pairwise_singleton _ _
  · intro p hp q hq
    obtain ⟨s, hs, rfl⟩ := List.mem_map.mp hp
    obtain ⟨kind, -, rfl⟩ := Option.map_eq_some_iff.mp (Option.mem_toList.mp hq)
    have := horder.inside s hs
    simp only [Partition.finish]
    omega

theorem spansOfLines_cons (offset state : Nat) (l : Line) (rest : List Line) :
    e.spansOfLines lang offset state (l :: rest) = (e.spansOfLine lang offset state l).1 ++
      e.spansOfLines lang (offset + l.length) (e.placeSpans lang l.content state).state rest := by
  rw [spansOfLines]
  simp only [spansOfLine]

/-- The spans of lines lie on them and follow each other. -/
theorem spansOfLines_inOrder (offset state : Nat) (lines : List Line) :
    (∀ p ∈ e.spansOfLines lang offset state lines,
      offset ≤ p.offset ∧ p.finish ≤ offset + Buffer.extent lines) ∧
    (e.spansOfLines lang offset state lines).Pairwise fun p q => p.finish ≤ q.offset := by
  induction lines generalizing offset state with
  | nil => exact ⟨fun _ hp => (nomatch hp), .nil⟩
  | cons l rest ih =>
    obtain ⟨hinside, hpairwise⟩ := ih (offset + l.length) (e.placeSpans lang l.content state).state
    have hline := e.spansOfLine_inside lang offset state l
    rw [spansOfLines_cons, Buffer.extent]
    constructor
    · intro p hp
      rcases List.mem_append.mp hp with hp | hp
      · have := hline p hp
        omega
      · have := hinside p hp
        omega
    · refine List.pairwise_append.mpr ⟨e.spansOfLine_pairwise lang offset state l, hpairwise, ?_⟩
      intro p hp q hq
      exact Nat.le_trans (hline p hp).2 (hinside q hq).1

theorem spansOfLines_append (offset state : Nat) (front back : List Line) :
    e.spansOfLines lang offset state (front ++ back) = e.spansOfLines lang offset state front ++
      e.spansOfLines lang (offset + Buffer.extent front) (e.stateAfter lang state front) back := by
  induction front generalizing offset state with
  | nil => rfl
  | cons l front ih =>
    rw [List.cons_append, spansOfLines_cons, spansOfLines_cons, ih, Buffer.extent, Nat.add_assoc,
      List.append_assoc]
    rfl

/-- No span of a document is dropped but the empty ones. -/
theorem keptFrom_spansOfLines (lines : List Line) : keptFrom 0 (e.spansOfLines lang 0 0 lines) =
    (e.spansOfLines lang 0 0 lines).filter fun p => 0 < p.length :=
  keptFrom_of_pairwise (e.spansOfLines_inOrder lang 0 0 lines).2 fun _ _ => Nat.zero_le _

/-- The partitions of a document end where it ends. -/
theorem tiles_partition (b : Buffer) : Tiles 0 (e.mapOf lang b).partitions b.length := by
  have htiles := tiles_ofSpans_kept lang.name b.length (e.spansOfLines lang 0 0 b.lines)
  rw [keptFrom_spansOfLines, Nat.max_eq_left] at htiles
  · exact htiles
  · apply lastFinish_le
    intro p hp
    have := ((e.spansOfLines_inOrder lang 0 0 b.lines).1 p (List.mem_of_mem_filter hp)).2
    rwa [Nat.zero_add, ← Buffer.length_eq_extent] at this

/-- An offset on a line has the kind that the spans of that line give it. -/
theorem kindAt_partition {b : Buffer} {front back : List Line} {l : Line}
    (hb : b.lines = front ++ l :: back) {i : Nat} (hi : i < l.length) :
    ∃ kind, (e.mapOf lang b).classifier.kindAt b.document (Buffer.extent front + i) =
        .ok kind ∧
      IsKindAt (e.spansOfLine lang (Buffer.extent front) (e.stateAfter lang 0 front) l).1
        (Buffer.extent front + i) kind := by
  have hlength : Buffer.extent front + i < b.length := by
    rw [Buffer.length_eq_extent, hb, Buffer.extent_append, Buffer.extent_cons]
    omega
  obtain ⟨before, p, behind, hcut, -, hcovers, -, hanswer⟩ := exists_partitionAt lang.name b.length
    (e.spansOfLines lang 0 0 b.lines) b.length_document hlength
  have hp : p ∈ (e.mapOf lang b).partitions := by
    change p ∈
      (PartitionMap.ofSpans lang.name b.length (e.spansOfLines lang 0 0 b.lines)).partitions
    rw [hcut]
    exact List.mem_append_right before List.mem_cons_self
  have hkind := isKindAt_ofSpans lang.name b.length (e.spansOfLines lang 0 0 b.lines) hp hcovers
  refine ⟨p.kind, ?_, ?_⟩
  · change Except.map _ ((e.mapOf lang b).partitionAt b.document _) = _
    rw [show (e.mapOf lang b).partitionAt b.document (Buffer.extent front + i) = .ok p
      from hanswer]
    rfl
  · rw [keptFrom_spansOfLines, isKindAt_filter, hb, spansOfLines_append, spansOfLines_cons,
      Nat.zero_add, isKindAt_append] at hkind
    · exact hkind
    · intro q hq
      have := ((e.spansOfLines_inOrder lang 0 0 front).1 q hq).2
      omega
    · intro q hq
      have := ((e.spansOfLines_inOrder lang _ _ back).1 q hq).1
      omega

/-- In the content of a line, a character has the kind of the span that holds it. -/
theorem kindAt_content {offset state : Nat} {l : Line} {i : Nat} {kind : String}
    (hi : i < l.content.length)
    (h : IsKindAt (e.spansOfLine lang offset state l).1 (offset + i) kind) :
    kind = (e.placeSpans lang l.content state).kindAt i := by
  have horder := e.placeSpans_inOrder lang l.content state
  rw [spansOfLine] at h
  cases hfind : (e.placeSpans lang l.content state).spans.find? fun s =>
      s.start ≤ i ∧ i < s.finish with
  | some s =>
    have hs := List.mem_of_find?_eq_some hfind
    have hholds : s.start ≤ i ∧ i < s.finish := by simpa using List.find?_some hfind
    rw [LineSpans.kindAt, hfind]
    apply h.1 _ (List.mem_append_left _ (List.mem_map_of_mem hs))
    simp only [Partition.Covers, Partition.finish]
    omega
  | none =>
    rw [LineSpans.kindAt, hfind]
    apply h.2
    intro p hp hcovers
    rcases List.mem_append.mp hp with hp | hp
    · obtain ⟨s, hs, rfl⟩ := List.mem_map.mp hp
      have hfree := List.find?_eq_none.mp hfind s hs
      simp only [Partition.Covers, Partition.finish, decide_eq_true_eq] at hcovers hfree
      omega
    · obtain ⟨kind, -, rfl⟩ := Option.map_eq_some_iff.mp (Option.mem_toList.mp hp)
      have := hcovers.1
      simp only at this
      omega

/-- A delimiter has the kind of the construct that its line ends in. -/
theorem kindAt_delimiter {offset state : Nat} {l : Line} {i : Nat} {kind : String}
    (hi : i < l.delimiter.length)
    (h : IsKindAt (e.spansOfLine lang offset state l).1 (offset + (l.content.length + i)) kind) :
    kind = (lang.kindOfState (e.placeSpans lang l.content state).state).getD defaultKind := by
  have horder := e.placeSpans_inOrder lang l.content state
  have hinside : ∀ p ∈ (e.placeSpans lang l.content state).spans.map (fun s =>
      { kind := s.kind, offset := offset + s.start, length := s.finish - s.start : Partition }),
      ¬ p.Covers (offset + (l.content.length + i)) := by
    intro p hp hcovers
    obtain ⟨s, hs, rfl⟩ := List.mem_map.mp hp
    obtain ⟨-, hlt, hle⟩ := horder.inside s hs
    simp only [Partition.Covers, Partition.finish] at hcovers
    omega
  rw [spansOfLine] at h
  cases hstate : lang.kindOfState (e.placeSpans lang l.content state).state with
  | none =>
    rw [hstate] at h
    apply h.2
    intro p hp
    exact hinside p (by simpa using hp)
  | some inner =>
    rw [hstate] at h
    apply h.1 _ (List.mem_append_right _ (Option.mem_toList.mpr rfl))
    simp only [Partition.Covers, Partition.finish]
    omega

section

variable {b : Buffer} {front back : List Line} {l : Line}

/-- A character has the kind that the spans of its line's content give it. -/
theorem kindAt_partition_content (hb : b.lines = front ++ l :: back) {i : Nat}
    (hi : i < l.content.length) :
    (e.mapOf lang b).classifier.kindAt b.document (Buffer.extent front + i) =
      .ok ((e.placeSpans lang l.content (e.stateAfter lang 0 front)).kindAt i) := by
  obtain ⟨kind, hanswer, hkind⟩ := e.kindAt_partition lang hb
    (show i < l.length from Nat.lt_of_lt_of_le hi (Nat.le_add_right _ _))
  rw [hanswer, e.kindAt_content lang hi hkind]

/-- A delimiter has the kind of the state that its line ends in. -/
theorem kindAt_partition_delimiter (hb : b.lines = front ++ l :: back) {i : Nat}
    (hi : i < l.delimiter.length) :
    (e.mapOf lang b).classifier.kindAt b.document
        (Buffer.extent front + (l.content.length + i)) =
      .ok ((lang.kindOfState
        (e.placeSpans lang l.content (e.stateAfter lang 0 front)).state).getD defaultKind) := by
  obtain ⟨kind, hanswer, hkind⟩ := e.kindAt_partition lang hb
    (show l.content.length + i < l.length from Nat.add_lt_add_left hi _)
  rw [hanswer, e.kindAt_delimiter lang hi hkind]

end

def lineKinds (state : Nat) (l : Line) : List String :=
  let result := e.placeSpans lang l.content state
  result.kindsFrom 0 l.content.length ++
    List.replicate l.delimiter.length ((lang.kindOfState result.state).getD defaultKind)

def linesKinds : Nat → List Line → List String
  | _, [] => []
  | state, l :: rest =>
    e.lineKinds lang state l ++ linesKinds (e.placeSpans lang l.content state).state rest

theorem map_kindAt_line {b : Buffer} {front back : List Line} {l : Line}
    (hb : b.lines = front ++ l :: back) :
    (List.range' (Buffer.extent front) l.length).map
        ((e.mapOf lang b).classifier.kindAt b.document) =
      (e.lineKinds lang (e.stateAfter lang 0 front) l).map .ok := by
  rw [Line.length, ← List.range'_append_1, List.map_append, lineKinds, List.map_append]
  congr 1
  · rw [LineSpans.kindsFrom, Nat.sub_zero, List.map_map, ← Nat.add_zero (Buffer.extent front),
      ← List.map_add_range', List.map_map]
    refine List.map_congr_left fun i hi => e.kindAt_partition_content lang hb ?_
    simpa using (List.mem_range'_1.mp hi).2
  · rw [List.map_replicate, List.eq_replicate_iff]
    refine ⟨by simp, fun found hfound => ?_⟩
    obtain ⟨o, ho, rfl⟩ := List.mem_map.mp hfound
    rw [List.mem_range'_1] at ho
    obtain ⟨i, rfl⟩ := Nat.exists_eq_add_of_le ho.1
    rw [Nat.add_assoc]
    exact e.kindAt_partition_delimiter lang hb (by omega)

/-- The kinds of all characters of a document, line by line. -/
theorem map_kindAt_partition (b : Buffer) :
    (List.range b.length).map ((e.mapOf lang b).classifier.kindAt b.document) =
      (e.linesKinds lang 0 b.lines).map .ok := by
  have hlines : ∀ back front, b.lines = front ++ back →
      (List.range' (Buffer.extent front) (Buffer.extent back)).map
          ((e.mapOf lang b).classifier.kindAt b.document) =
        (e.linesKinds lang (e.stateAfter lang 0 front) back).map .ok := by
    intro back
    induction back with
    | nil => exact fun _ _ => rfl
    | cons l back ih =>
      intro front hb
      have hrest := ih (front ++ [l]) (by rw [hb, List.append_assoc]; rfl)
      rw [Buffer.extent_append, stateAfter, List.foldl_append] at hrest
      rw [Buffer.extent, ← List.range'_append_1, List.map_append, e.map_kindAt_line lang hb,
        linesKinds, List.map_append]
      exact congrArg _ hrest
  rw [List.range_eq_range', Buffer.length_eq_extent]
  exact hlines b.lines [] rfl

/-- Whatever searches for the patterns, a document is partitioned exactly. Each line is entered in
the state that the loop over the bytes of the line before ends in, the first one in state 0. A
character in the content of a line has the kind of the span that holds its first byte, and a
delimiter has the kind of the state that its line ends in. -/
theorem partition_exact (b : Buffer) :
    ∃ m, e.partition lang b.document = .ok m ∧ Tiles 0 m.partitions b.length ∧
    ∃ state : Nat → Nat, state 0 = 0 ∧
    ∀ k l, b.lines[k]? = some l →
      let start := Buffer.extent (b.lines.take k)
      ∃ result, e.lineSpans lang l.content (state k) = some result ∧
        state (k + 1) = result.state ∧
        (∀ i < l.content.length, m.classifier.kindAt b.document (start + i) =
          .ok (result.kindAt (byteOffset l.content i))) ∧
        ∀ i < l.delimiter.length,
          m.classifier.kindAt b.document (start + (l.content.length + i)) =
            .ok ((lang.kindOfState result.state).getD defaultKind) := by
  refine ⟨_, e.partition_document lang b, e.tiles_partition lang b,
    fun k => e.stateAfter lang 0 (b.lines.take k), rfl, ?_⟩
  intro k l hl start
  have hcut : b.lines = b.lines.take k ++ l :: b.lines.drop (k + 1) := by
    obtain ⟨hk, rfl⟩ := List.getElem?_eq_some_iff.mp hl
    rw [← List.drop_eq_getElem_cons hk, List.take_append_drop]
  refine ⟨_, e.lineSpans_eq lang _ _, ?_, fun i hi => ?_,
    fun i hi => e.kindAt_partition_delimiter lang hcut hi⟩
  · obtain ⟨hk, rfl⟩ := List.getElem?_eq_some_iff.mp hl
    change e.stateAfter lang 0 (b.lines.take (k + 1)) = _
    rw [List.take_succ_eq_append_getElem hk, stateAfter, List.foldl_append]
    rfl
  · rw [← e.inBytes_placeSpans lang,
      LineSpans.kindAt_inBytes (e.placeSpans_inOrder lang l.content _) hi]
    exact e.kindAt_partition_content lang hcut hi

/-- The string opened on the first line takes up its delimiter and the start of the second, where
the second quote is the fifth byte. -/
theorem partition_exact_string :
    let b := Buffer.scratch "x\"é\r\ny é\"#".toList
    b.lines[0]? = some ⟨"x\"é".toList, ['\r', '\n']⟩ ∧ b.lines[1]? = some ⟨"y é\"#".toList, []⟩ ∧
      ∃ m, own.partition Language.Builtin.r b.document = .ok m ∧
        m.classifier.kindAt b.document 4 = .ok "__r_string" ∧
        m.classifier.kindAt b.document 8 = .ok "__r_string" ∧
        m.classifier.kindAt b.document 9 = .ok "__r_comment" := by
  intro b
  have hfirst : b.lines[0]? = some ⟨"x\"é".toList, ['\r', '\n']⟩ := by decide
  have hsecond : b.lines[1]? = some ⟨"y é\"#".toList, []⟩ := by decide
  obtain ⟨m, hm, -, state, hzero, hlines⟩ := own.partition_exact Language.Builtin.r b
  obtain ⟨first, hrun, hstate, -, hdelimiter⟩ := hlines 0 _ hfirst
  obtain ⟨second, hrun', -, hcontent, -⟩ := hlines 1 _ hsecond
  rw [hzero] at hrun
  have hfirstRun : own.lineSpans Language.Builtin.r "x\"é".toList 0 =
      some ⟨[⟨1, 4, "__r_string"⟩], 1⟩ := by decide +kernel
  obtain rfl := Option.some.inj (hrun.symm.trans hfirstRun)
  rw [hstate] at hrun'
  have hsecondRun : own.lineSpans Language.Builtin.r "y é\"#".toList 1 =
      some ⟨[⟨0, 5, "__r_string"⟩, ⟨5, 6, "__r_comment"⟩], 0⟩ := by decide +kernel
  obtain rfl := Option.some.inj (hrun'.symm.trans hsecondRun)
  refine ⟨hfirst, hsecond, m, hm, (hdelimiter 1 (by decide)).trans ?_,
    (hcontent 3 (by decide)).trans ?_, (hcontent 4 (by decide)).trans ?_⟩
  · exact congrArg Except.ok (by decide +kernel)
  · exact congrArg Except.ok (by decide +kernel)
  · exact congrArg Except.ok (by decide +kernel)

end Engine

end PartitionScan
