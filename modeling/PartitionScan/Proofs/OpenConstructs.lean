import PartitionScan.Proofs.LineKinds
import PartitionScan.Proofs.RRules
import PartitionScan.Proofs.RuleStates

/-!
# Open constructs

A construct that a line leaves open takes up the line's delimiter and all that follows, line after
line, up to where its own rule finds its end. The rule is remembered by its state only, and the
pieces come from different lines; but they have one kind and follow each other, and a map joins
neighbours of one kind, so that the whole construct lies in one partition.
-/
namespace PartitionScan

namespace PartitionMap

/-- Whether the characters from `start` up to `finish`, if there are any, all lie in one partition,
and that is of a kind. -/
def OneOfKind (m : PartitionMap) (d : Document) (kind : String) (start finish : Nat) : Prop :=
  start < finish → ∃ p ∈ m.partitions, p.kind = kind ∧
    ∀ o, start ≤ o → o < finish → p.Covers o ∧ m.partitionAt d o = .ok p

/-- In a tiling whose neighbours differ in kind, offsets of one kind that follow each other lie in
one partition. -/
theorem exists_mem_of_run {start finish : Nat} {ps : List Partition}
    (htiles : Tiles start ps finish) (hchain : ps.IsChain fun p q => p.kind ≠ q.kind)
    {kind : String} {low high : Nat} (hlow : start ≤ low) (hlt : low < high)
    (hhigh : high ≤ finish)
    (hkind : ∀ p ∈ ps, ∀ o, low ≤ o → o < high → p.Covers o → p.kind = kind) :
    ∃ p ∈ ps, p.kind = kind ∧ p.offset ≤ low ∧ high ≤ p.finish := by
  induction ps generalizing start with
  | nil =>
    rw [tiles_nil] at htiles
    omega
  | cons p rest ih =>
    obtain ⟨hoffset, hpos, hrest⟩ := htiles
    by_cases hp : low < p.finish
    · have hfirst : p.kind = kind :=
        hkind p List.mem_cons_self low (Nat.le_refl low) hlt ⟨by omega, hp⟩
      refine ⟨p, List.mem_cons_self, hfirst, by omega, Nat.le_of_not_lt fun hshort => ?_⟩
      -- If the run went on behind this partition, the next one would be of the same kind.
      cases rest with
      | nil =>
        rw [tiles_nil] at hrest
        omega
      | cons q rest =>
        obtain ⟨hq, hqpos, -⟩ := hrest
        have hnext : q.kind = kind := by
          apply hkind q (List.mem_cons_of_mem p List.mem_cons_self) p.finish (Nat.le_of_lt hp)
            hshort
          simp only [Partition.Covers, Partition.finish] at hq ⊢
          omega
        exact (List.isChain_cons_cons.mp hchain).1 (hfirst.trans hnext.symm)
    · obtain ⟨q, hq, hrun⟩ := ih hrest hchain.tail (Nat.le_of_not_lt hp)
        fun q hq => hkind q (List.mem_cons_of_mem p hq)
      exact ⟨q, List.mem_cons_of_mem p hq, hrun⟩

end PartitionMap

namespace Engine

open PartitionMap

variable (e : Engine) (lang : Language)

theorem partitionAt_of_mem {b : Buffer} {p : Partition} (hp : p ∈ (e.mapOf lang b).partitions)
    {o : Nat} (hcovers : p.Covers o) (ho : o < b.length) :
    (e.mapOf lang b).partitionAt b.document o = .ok p := by
  rw [partitionAt_eq_ok_iff b.length_document (List.ne_nil_of_mem hp) ho]
  exact find?_of_mem_tiles (e.tiles_partition lang b) hp hcovers

/-- The characters of a run of one kind lie in one partition. -/
theorem oneOfKind_of_run {b : Buffer} {before behind : List String} {n : Nat} {kind : String}
    (h : e.linesKinds lang 0 b.lines = before ++ (List.replicate n kind ++ behind)) :
    (e.mapOf lang b).OneOfKind b.document kind before.length (before.length + n) := by
  intro hlt
  have hlength : before.length + n ≤ b.length := by
    have := congrArg List.length h
    rw [length_linesKinds, List.length_append, List.length_append, List.length_replicate,
      ← Buffer.length_eq_extent] at this
    omega
  have hkinds : ∀ p ∈ (e.mapOf lang b).partitions, ∀ o, before.length ≤ o →
      o < before.length + n → p.Covers o → p.kind = kind := by
    intro p hp o hle ho hcovers
    have hfound : (e.linesKinds lang 0 b.lines)[o]? = some kind := by
      rw [h, List.getElem?_append_right hle, List.getElem?_append_left (by simp; omega),
        List.getElem?_replicate_of_lt (by omega)]
    have hanswer := (e.kindAt_eq_ok_iff lang (by omega)).mpr hfound
    change Except.map _ ((e.mapOf lang b).partitionAt b.document o) = _ at hanswer
    rw [e.partitionAt_of_mem lang hp hcovers (by omega)] at hanswer
    exact Except.ok.inj hanswer
  obtain ⟨p, hp, hkind, hle, hge⟩ :=
    exists_mem_of_run (e.tiles_partition lang b) (isChain_join (tiles_fill_kept b.length 0 _))
      (Nat.zero_le _) hlt hlength hkinds
  refine ⟨p, hp, hkind, fun o ho ho' => ?_⟩
  have hcovers : p.Covers o := ⟨Nat.le_trans hle ho, Nat.lt_of_lt_of_le ho' hge⟩
  exact ⟨hcovers, e.partitionAt_of_mem lang hp hcovers (by omega)⟩

/-- A turn leaves the spans made so far in front. -/
theorem lineTurn_prefix {text : List Char} {front : List Span} (s : Progress)
    (hs : front <+: s.spans) (next : Progress ⊕ LineSpans)
    (h : e.lineTurn lang text s = some next) :
    next.elim (fun s' => front <+: s'.spans) fun r => front <+: r.spans := by
  have hpush (start finish : Nat) (kind : String) :
      front <+: pushSpan s.spans start finish kind := by
    rw [pushSpan]
    split
    · exact hs.trans (List.prefix_append _ _)
    · exact hs
  rw [lineTurn] at h
  simp only [Option.bind_eq_bind, Option.pure_def] at h
  split at h
  · split at h
    · obtain ⟨close, -, h⟩ := Option.bind_eq_some_iff.mp h
      cases close with
      | none =>
        cases h
        exact hpush _ _ _
      | some finish =>
        obtain ⟨byte, -, h⟩ := Option.bind_eq_some_iff.mp h
        cases h
        exact hpush _ _ _
    · split at h
      · cases h
        exact hs
      · obtain ⟨byte, -, h⟩ := Option.bind_eq_some_iff.mp h
        cases h
        exact hpush _ _ _
      · obtain ⟨close, -, h⟩ := Option.bind_eq_some_iff.mp h
        cases close with
        | none =>
          cases h
          exact hpush _ _ _
        | some finish =>
          obtain ⟨byte, -, h⟩ := Option.bind_eq_some_iff.mp h
          cases h
          exact hpush _ _ _
  · cases h
    exact hs

section

variable {e lang} {r : BlockRule} (hids : lang.HasDistinctStates) (hr : r ∈ lang.blocks)
include hids hr

/-- A line that does not close the construct it begins in is one span of it, and leaves it open. -/
theorem spans_of_open {content : List Char} (hopen : e.findEnd r content 0 = some none) :
    e.spans lang content r.id = ⟨pushSpan [] 0 (byteLength content) r.kind, r.id⟩ := by
  apply Option.some.inj
  rw [← lineSpans_eq, lineSpans]
  refine loop_inr ?_ (Nat.succ_pos _)
  rw [lineTurn]
  by_cases hpos : 0 < byteLength content
  · simp only [if_pos hpos, Language.enclosing?_id hids hr, hopen, Option.bind_eq_bind,
      Option.bind_some, Option.pure_def]
  · rw [if_neg hpos, pushSpan, if_neg hpos]

/-- A line that closes it begins with a span of it. -/
theorem spans_of_closed {content : List Char} {finish : Nat}
    (hclosed : e.findEnd r content 0 = some (some finish)) (hpos : 0 < finish) :
    [⟨0, finish, r.kind⟩] <+: (e.spans lang content r.id).spans := by
  have hzero : IsBoundary content 0 := ⟨0, Nat.zero_le _, rfl⟩
  obtain ⟨close, hclose, hbounds⟩ := e.findEnd_spec r hzero
  cases hclosed.symm.trans hclose
  obtain ⟨next, hnext, -⟩ := nextBoundary?_spec hzero
  have hle := (hbounds finish rfl).1.le_byteLength
  have hfirst : e.lineTurn lang content { state := r.id } =
      some (.inl ⟨[⟨0, finish, r.kind⟩], max finish next, 0⟩) := by
    rw [lineTurn, if_pos (Nat.lt_of_lt_of_le hpos hle)]
    simp only [Language.enclosing?_id hids hr, hclosed, hnext, Option.bind_eq_bind,
      Option.bind_some, Option.pure_def, pushSpan, if_pos hpos, List.nil_append]
  have hrun := e.lineSpans_eq lang content r.id
  rw [lineSpans, loop_inl hfirst (Nat.succ_pos _)] at hrun
  exact loop_keeps (e.lineTurn_prefix lang) (List.prefix_refl _) hrun

theorem lineKinds_of_open {l : Line} (hopen : e.findEnd r l.content 0 = some none) :
    e.lineKinds lang r.id l = List.replicate l.length r.kind := by
  have hspans := spans_of_open hids hr hopen
  have hkinds : ∀ k, 0 ≤ k → k < l.content.length →
      (e.placeSpans lang l.content r.id).kindAt k = r.kind := by
    intro k _ hk
    have hpos : 0 < byteLength l.content := by
      rw [← byteOffset_zero l.content, byteOffset_lt_byteLength_iff]
      omega
    rw [LineSpans.kindAt, placeSpans, hspans, pushSpan, if_pos hpos]
    simp [Span.inPlaces, byteLength, placeOfByte_byteOffset (Nat.le_refl _), hk, placeOfByte_zero]
  rw [lineKinds, LineSpans.kindsFrom_eq_replicate hkinds, state_placeSpans, hspans,
    Language.kindOfState_id hids hr, Option.getD_some, Nat.sub_zero, ← List.replicate_add,
    Line.length]

/-- Lines that do not close the construct all belong to it. -/
theorem linesKinds_of_open {lines : List Line}
    (hopen : ∀ l ∈ lines, e.findEnd r l.content 0 = some none) :
    e.stateAfter lang r.id lines = r.id ∧
      e.linesKinds lang r.id lines = List.replicate (Buffer.extent lines) r.kind := by
  induction lines with
  | nil => exact ⟨rfl, rfl⟩
  | cons l rest ih =>
    have hl := hopen l List.mem_cons_self
    obtain ⟨hstate, hkinds⟩ := ih fun k hk => hopen k (List.mem_cons_of_mem l hk)
    rw [stateAfter_cons, linesKinds_cons, state_placeSpans, spans_of_open hids hr hl,
      lineKinds_of_open hids hr hl, hkinds, ← List.replicate_add]
    exact ⟨hstate, rfl⟩

/-- The line that closes it begins with the rest of it. -/
theorem lineKinds_of_closed {l : Line} {finish : Nat}
    (hclosed : e.findEnd r l.content 0 = some (some finish)) :
    ∃ behind, e.lineKinds lang r.id l =
      List.replicate (placeOfByte l.content finish) r.kind ++ behind := by
  obtain ⟨close, hclose, hbounds⟩ := e.findEnd_spec r ⟨0, Nat.zero_le _, byteOffset_zero l.content⟩
  cases hclosed.symm.trans hclose
  obtain ⟨⟨place, hplace, rfl⟩, -⟩ := hbounds finish rfl
  rw [placeOfByte_byteOffset hplace]
  have hkinds : ∀ k, 0 ≤ k → k < place →
      (e.placeSpans lang l.content r.id).kindAt k = r.kind := by
    intro k _ hk
    have hpos : 0 < byteOffset l.content place :=
      (byteOffset_lt_iff (Nat.zero_le _) hplace).mpr (Nat.zero_lt_of_lt hk)
    obtain ⟨behind, hbehind⟩ := spans_of_closed hids hr hclosed hpos
    rw [LineSpans.kindAt, placeSpans, ← hbehind]
    simp [Span.inPlaces, placeOfByte_byteOffset hplace, hk]
  rw [lineKinds, LineSpans.kindsFrom_append (Nat.zero_le place) hplace,
    LineSpans.kindsFrom_eq_replicate hkinds, Nat.sub_zero, List.append_assoc]
  exact ⟨_, rfl⟩

section

variable {b : Buffer} {front rest : List Line} {l : Line} (hb : b.lines = front ++ l :: rest)
  (hopen : (e.spans lang l.content (e.stateAfter lang 0 front)).state = r.id)
include hb hopen

/-- The kinds of a document in which a line leaves the construct open: those up to the delimiter of
the line, and from there on those of the construct. -/
theorem linesKinds_of_left_open : ∃ before,
    before.length = Buffer.extent front + l.content.length ∧ e.linesKinds lang 0 b.lines =
      before ++ (List.replicate l.delimiter.length r.kind ++ e.linesKinds lang r.id rest) := by
  let result := e.placeSpans lang l.content (e.stateAfter lang 0 front)
  refine ⟨e.linesKinds lang 0 front ++ result.kindsFrom 0 l.content.length, ?_, ?_⟩
  · simp [LineSpans.kindsFrom]
  · rw [hb, linesKinds_append, linesKinds_cons, lineKinds, state_placeSpans, hopen,
      Language.kindOfState_id hids hr, Option.getD_some]
    simp only [result, List.append_assoc]

/-- The construct goes on to where the first other line closes it. -/
theorem oneOfKind_of_closed {between back : List Line} {closing : Line} {finish : Nat}
    (hrest : rest = between ++ closing :: back)
    (hbetween : ∀ k ∈ between, e.findEnd r k.content 0 = some none)
    (hclosing : e.findEnd r closing.content 0 = some (some finish)) :
    (e.mapOf lang b).OneOfKind b.document r.kind (Buffer.extent front + l.content.length)
      (Buffer.extent (front ++ l :: between) + placeOfByte closing.content finish) := by
  obtain ⟨before, hstart, hkinds⟩ := linesKinds_of_left_open hids hr hb hopen
  obtain ⟨hstate, hopened⟩ := linesKinds_of_open hids hr hbetween
  obtain ⟨behind, hbehind⟩ := lineKinds_of_closed hids hr hclosing
  generalize placeOfByte closing.content finish = place at *
  have hrun : e.linesKinds lang 0 b.lines = before ++
      (List.replicate (l.delimiter.length + Buffer.extent between + place) r.kind ++
        (behind ++ e.linesKinds lang (e.spans lang closing.content r.id).state back)) := by
    rw [hkinds, hrest, linesKinds_append, hopened, hstate, linesKinds_cons, hbehind,
      state_placeSpans, List.replicate_add, List.replicate_add]
    simp only [List.append_assoc]
  have hend : Buffer.extent (front ++ l :: between) + place =
      before.length + (l.delimiter.length + Buffer.extent between + place) := by
    rw [hstart, Buffer.extent_append, Buffer.extent_cons, Line.length]
    omega
  rw [← hstart, hend]
  exact e.oneOfKind_of_run lang hrun

/-- Or to the end of the document, if no line closes it. -/
theorem oneOfKind_of_never_closed
    (hrest : ∀ k ∈ rest, e.findEnd r k.content 0 = some none) :
    (e.mapOf lang b).OneOfKind b.document r.kind
      (Buffer.extent front + l.content.length) b.length := by
  obtain ⟨before, hstart, hkinds⟩ := linesKinds_of_left_open hids hr hb hopen
  obtain ⟨-, hopened⟩ := linesKinds_of_open hids hr hrest
  have hrun : e.linesKinds lang 0 b.lines = before ++
      (List.replicate (l.delimiter.length + Buffer.extent rest) r.kind ++ []) := by
    rw [hkinds, hopened, List.replicate_add, List.append_nil]
  have hend : b.length = before.length + (l.delimiter.length + Buffer.extent rest) := by
    rw [hstart, Buffer.length_eq_extent, hb, Buffer.extent_append, Buffer.extent_cons, Line.length]
    omega
  rw [← hstart, hend]
  exact e.oneOfKind_of_run lang hrun

end

end

/-- Built-in languages and those of settings tell their block rules apart. In every language that
does, and whatever searches for its patterns, a construct that a line leaves open takes up the
delimiter of the line and all that follows, through the lines that do not close it up to where the
first other line does, or to the end of the document. All of it is of the kind of its rule and lies
in one partition. -/
theorem open_construct_is_one_partition :
    (∀ lang ∈ Language.builtin, lang.HasDistinctStates) ∧
    (∀ root settings, Settings.ofEntries root = .ok settings →
      ∀ lang ∈ settings.languages, lang.HasDistinctStates) ∧
    ∀ (e : Engine) (lang : Language) (b : Buffer) (front rest : List Line) (l : Line)
      (r : BlockRule), lang.HasDistinctStates → r ∈ lang.blocks → b.lines = front ++ l :: rest →
      (e.spans lang l.content (e.stateAfter lang 0 front)).state = r.id →
      ∃ m, e.partition lang b.document = .ok m ∧
      let start := Buffer.extent front + l.content.length
      (∀ between closing back finish, rest = between ++ closing :: back →
        (∀ k ∈ between, e.findEnd r k.content 0 = some none) →
        e.findEnd r closing.content 0 = some (some finish) →
        m.OneOfKind b.document r.kind start
          (Buffer.extent (front ++ l :: between) + placeOfByte closing.content finish)) ∧
      ((∀ k ∈ rest, e.findEnd r k.content 0 = some none) →
        m.OneOfKind b.document r.kind start b.length) := by
  refine ⟨Language.hasDistinctStates_builtin,
    fun root settings => Settings.hasDistinctStates_ofEntries, ?_⟩
  intro e lang b front rest l r hids hr hb hopen
  exact ⟨_, e.partition_document lang b,
    fun between closing back finish => oneOfKind_of_closed hids hr hb hopen,
    oneOfKind_of_never_closed hids hr hb hopen⟩

/-- The string opened on the first line goes on over an empty line and into the third, where it ends
with the third byte. -/
theorem open_construct_is_one_partition_string :
    let b := Buffer.scratch "x'a\r\n\né'y".toList
    let r := RText.Quote.single.rule
    let first : Line := ⟨"x'a".toList, ['\r', '\n']⟩
    let between : Line := ⟨[], ['\n']⟩
    let closing : Line := ⟨"é'y".toList, []⟩
    b.lines = [first, between, closing] ∧
      (own.spans Language.Builtin.r first.content 0).state = r.id ∧
      own.findEnd r between.content 0 = some none ∧
      own.findEnd r closing.content 0 = some (some 3) ∧
      ∃ m, own.partition Language.Builtin.r b.document = .ok m ∧
        m.OneOfKind b.document "__r_string" 3 8 := by
  intro b r first between closing
  obtain ⟨hbuiltin, -, hone⟩ := open_construct_is_one_partition
  have hids : Language.Builtin.r.HasDistinctStates :=
    hbuiltin Language.Builtin.r (by simp [Language.builtin])
  have hr : r ∈ Language.Builtin.r.blocks := by
    rw [RText.r_blocks]
    decide
  have hlines : b.lines = [first, between, closing] := by decide
  have hstate : (own.spans Language.Builtin.r first.content 0).state = r.id := by decide +kernel
  have hbetween : own.findEnd r between.content 0 = some none := by decide +kernel
  have hclosing : own.findEnd r closing.content 0 = some (some 3) := by decide +kernel
  obtain ⟨m, hm, hclosed, -⟩ :=
    hone own Language.Builtin.r b [] [between, closing] first r hids hr hlines hstate
  exact ⟨hlines, hstate, hbetween, hclosing, m, hm,
    hclosed [between] closing [] 3 rfl (by simpa using hbetween) hclosing⟩

end Engine

end PartitionScan
