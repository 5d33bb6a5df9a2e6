import Mathlib.Data.List.Chain
import PartitionScan.Proofs.Tiling

/-!
# Kept spans

Whatever spans a map is made of, it keeps those that hold a character and begin behind all that it
has kept before. Its partitions tile the text up to its length, or up to the end of the last kept
span if that lies behind; neighbours differ in kind, and every offset has the kind of the kept span
that covers it. A lookup finds the one partition that covers an offset.
-/
namespace PartitionScan

def Partition.Covers (p : Partition) (o : Nat) : Prop :=
  p.offset ≤ o ∧ o < p.finish

instance (p : Partition) (o : Nat) : Decidable (p.Covers o) :=
  inferInstanceAs (Decidable (_ ∧ _))

namespace PartitionMap

/-- The spans that a map keeps, those before `start` being taken. -/
def keptFrom (start : Nat) : List Partition → List Partition
  | [] => []
  | span :: rest =>
    if 0 < span.length ∧ start ≤ span.offset then span :: keptFrom span.finish rest
    else keptFrom start rest

def lastFinish (start : Nat) (ps : List Partition) : Nat :=
  (ps.getLast?.map Partition.finish).getD start

/-- Whether a kind is that of the span that covers an offset, or the default kind if none does. -/
def IsKindAt (spans : List Partition) (o : Nat) (kind : String) : Prop :=
  (∀ s ∈ spans, s.Covers o → kind = s.kind) ∧
    ((∀ s ∈ spans, ¬ s.Covers o) → kind = defaultKind)

@[simp] theorem lastFinish_nil (start : Nat) : lastFinish start [] = start := rfl

@[simp] theorem lastFinish_cons (start : Nat) (p : Partition) (rest : List Partition) :
    lastFinish start (p :: rest) = lastFinish p.finish rest := by
  cases rest with
  | nil => rfl
  | cons q rest => rw [lastFinish, lastFinish, List.getLast?_cons_cons, List.getLast?_cons]; rfl

theorem lastFinish_le {finish : Nat} {ps : List Partition} (h : ∀ p ∈ ps, p.finish ≤ finish) :
    lastFinish 0 ps ≤ finish := by
  cases hlast : ps.getLast? with
  | none =>
    rw [lastFinish, hlast]
    exact Nat.zero_le finish
  | some p =>
    rw [lastFinish, hlast]
    exact h p (List.mem_of_getLast? hlast)

section Kept

variable {start : Nat} {span s : Partition} {rest spans : List Partition}

theorem keptFrom_of_kept (h : 0 < span.length ∧ start ≤ span.offset) :
    keptFrom start (span :: rest) = span :: keptFrom span.finish rest := if_pos h

theorem keptFrom_of_dropped (h : ¬ (0 < span.length ∧ start ≤ span.offset)) :
    keptFrom start (span :: rest) = keptFrom start rest := if_neg h

theorem fill_of_kept (length : Nat) (h : 0 < span.length ∧ start ≤ span.offset) :
    fill length start (span :: rest) =
      gap start span.offset ++ span :: fill length span.finish rest := by
  rw [fill, if_neg (by omega)]

theorem fill_of_dropped (length : Nat) (h : ¬ (0 < span.length ∧ start ≤ span.offset)) :
    fill length start (span :: rest) = fill length start rest := by
  rw [fill, if_pos (by omega)]

/-- No kept span begins before where the map has got to. -/
theorem le_offset_of_mem_keptFrom (h : s ∈ keptFrom start spans) : start ≤ s.offset := by
  induction spans generalizing start with
  | nil => cases h
  | cons span rest ih =>
    by_cases hkept : 0 < span.length ∧ start ≤ span.offset
    · rw [keptFrom_of_kept hkept, List.mem_cons] at h
      rcases h with rfl | h
      · exact hkept.2
      · have hle := ih h
        simp only [Partition.finish] at hle
        omega
    · rw [keptFrom_of_dropped hkept] at h
      exact ih h

theorem mem_of_mem_keptFrom (h : s ∈ keptFrom start spans) : s ∈ spans := by
  induction spans generalizing start with
  | nil => cases h
  | cons span rest ih =>
    by_cases hkept : 0 < span.length ∧ start ≤ span.offset
    · rw [keptFrom_of_kept hkept, List.mem_cons] at h
      exact List.mem_cons.mpr (h.imp id ih)
    · rw [keptFrom_of_dropped hkept] at h
      exact List.mem_cons_of_mem span (ih h)

theorem not_covers_of_lt {o : Nat} (h : o < start) : ∀ s ∈ keptFrom start spans, ¬ s.Covers o := by
  intro s hs hcovers
  have hle := le_offset_of_mem_keptFrom hs
  have := hcovers.1
  omega

theorem isKindAt_nil {o : Nat} {kind : String} : IsKindAt [] o kind ↔ kind = defaultKind := by
  simp [IsKindAt]

theorem isKindAt_cons_of_covers {o : Nat} {kind : String} (hspan : span.Covers o)
    (hrest : ∀ s ∈ rest, ¬ s.Covers o) : IsKindAt (span :: rest) o kind ↔ kind = span.kind := by
  constructor
  · intro h
    exact h.1 span List.mem_cons_self hspan
  · rintro rfl
    refine ⟨fun s hs hcovers => ?_, fun hnone => absurd hspan (hnone span List.mem_cons_self)⟩
    rcases List.mem_cons.mp hs with rfl | hs
    · rfl
    · exact absurd hcovers (hrest s hs)

theorem isKindAt_cons_of_not_covers {o : Nat} {kind : String} (hspan : ¬ span.Covers o) :
    IsKindAt (span :: rest) o kind ↔ IsKindAt rest o kind := by
  simp [IsKindAt, hspan]

theorem isKindAt_default {o : Nat} (h : ∀ s ∈ spans, ¬ s.Covers o) : IsKindAt spans o defaultKind :=
  ⟨fun s hs hcovers => absurd hcovers (h s hs), fun _ => rfl⟩

end Kept

section Fill

/-- Filled up, the kept spans tile the text up to its length or to the end of the last of them. -/
theorem tiles_fill_kept (length start : Nat) (spans : List Partition) :
    Tiles start (fill length start spans)
      (max length (lastFinish start (keptFrom start spans))) := by
  induction spans generalizing start with
  | nil =>
    rw [fill, keptFrom, lastFinish_nil]
    by_cases h : start ≤ length
    · rw [Nat.max_eq_left h]
      exact tiles_gap h
    · rw [gap, if_neg (by omega), tiles_nil]
      omega
  | cons span rest ih =>
    by_cases h : 0 < span.length ∧ start ≤ span.offset
    · rw [fill_of_kept length h, keptFrom_of_kept h, lastFinish_cons]
      exact tiles_append (tiles_gap h.2) ⟨rfl, h.1, ih span.finish⟩
    · rw [fill_of_dropped length h, keptFrom_of_dropped h]
      exact ih start

theorem covers_gap {start finish o : Nat} {p : Partition} (h : p ∈ gap start finish)
    (hcovers : p.Covers o) : p.kind = defaultKind ∧ start ≤ o ∧ o < finish := by
  unfold gap at h
  split at h
  · rw [List.mem_singleton] at h
    subst h
    simp only [Partition.Covers, Partition.finish] at hcovers
    exact ⟨rfl, hcovers.1, by omega⟩
  · cases h

/-- In a tiling no partition reaches before its start. -/
theorem le_offset_of_mem_tiles {start finish : Nat} {ps : List Partition}
    (h : Tiles start ps finish) : ∀ p ∈ ps, start ≤ p.offset := by
  induction ps generalizing start with
  | nil => exact fun p hp => nomatch hp
  | cons q rest ih =>
    obtain ⟨hoffset, hpos, hrest⟩ := h
    intro p hp
    rcases List.mem_cons.mp hp with rfl | hp
    · exact Nat.le_of_eq hoffset.symm
    · have hle := ih hrest p hp
      simp only [Partition.finish] at hle
      omega

theorem le_of_tiles {start finish : Nat} {ps : List Partition} (h : Tiles start ps finish) :
    start ≤ finish := by
  induction ps generalizing start with
  | nil => exact Nat.le_of_eq h
  | cons q rest ih =>
    obtain ⟨hoffset, -, hrest⟩ := h
    have hle := ih hrest
    simp only [Partition.finish] at hle
    omega

/-- Nor does any reach behind its end. -/
theorem finish_le_of_mem_tiles {start finish : Nat} {ps : List Partition}
    (h : Tiles start ps finish) : ∀ p ∈ ps, p.finish ≤ finish := by
  induction ps generalizing start with
  | nil => exact fun p hp => nomatch hp
  | cons q rest ih =>
    obtain ⟨-, -, hrest⟩ := h
    exact List.forall_mem_cons.mpr ⟨le_of_tiles hrest, ih hrest⟩

/-- A filled partition has the kind of the kept span that covers its offsets. -/
theorem isKindAt_fill (length start : Nat) (spans : List Partition) {p : Partition} {o : Nat}
    (hp : p ∈ fill length start spans) (hcovers : p.Covers o) :
    IsKindAt (keptFrom start spans) o p.kind := by
  induction spans generalizing start with
  | nil => exact isKindAt_nil.mpr (covers_gap hp hcovers).1
  | cons span rest ih =>
    by_cases h : 0 < span.length ∧ start ≤ span.offset
    · rw [fill_of_kept length h, List.mem_append, List.mem_cons] at hp
      rw [keptFrom_of_kept h]
      rcases hp with hp | rfl | hp
      · obtain ⟨hkind, -, hlt⟩ := covers_gap hp hcovers
        have hspan : ¬ span.Covers o := fun hspan => Nat.not_le.mpr hlt hspan.1
        rw [hkind, isKindAt_cons_of_not_covers hspan]
        apply isKindAt_default
        apply not_covers_of_lt
        simp only [Partition.finish]
        omega
      · rw [isKindAt_cons_of_covers hcovers (not_covers_of_lt hcovers.2)]
      · have hle := le_offset_of_mem_tiles (tiles_fill_kept length span.finish rest) p hp
        have hspan : ¬ span.Covers o := by
          intro hspan
          have := hspan.2
          have := hcovers.1
          omega
        rw [isKindAt_cons_of_not_covers hspan]
        exact ih span.finish hp
    · rw [fill_of_dropped length h] at hp
      rw [keptFrom_of_dropped h]
      exact ih start hp

end Fill

section Join

variable {start finish : Nat} {ps : List Partition}

/-- Joining gives no offset another kind. -/
theorem exists_of_mem_join (h : Tiles start ps finish) {p : Partition} (hp : p ∈ join ps) {o : Nat}
    (hcovers : p.Covers o) : ∃ q ∈ ps, q.Covers o ∧ q.kind = p.kind := by
  induction ps generalizing start p with
  | nil => cases hp
  | cons q rest ih =>
    obtain ⟨hoffset, hpos, hrest⟩ := h
    have hlater : ∀ p ∈ join rest, p.Covers o → ∃ r ∈ q :: rest, r.Covers o ∧ r.kind = p.kind := by
      intro p hp hcovers
      obtain ⟨r, hr, hr'⟩ := ih hrest hp hcovers
      exact ⟨r, List.mem_cons_of_mem q hr, hr'⟩
    rw [join] at hp
    cases hjoin : join rest with
    | nil =>
      rw [hjoin, joinFirst, List.mem_singleton] at hp
      exact ⟨q, List.mem_cons_self, hp ▸ hcovers, by rw [hp]⟩
    | cons r later =>
      rw [hjoin] at hp hlater
      rw [joinFirst] at hp
      split at hp
      · next hsame =>
        rcases List.mem_cons.mp hp with rfl | hp
        · -- The joined partition is covered by its two parts.
          by_cases ho : o < q.finish
          · exact ⟨q, List.mem_cons_self, ⟨hcovers.1, ho⟩, rfl⟩
          · obtain ⟨t, ht, htcovers, htkind⟩ := hlater r List.mem_cons_self (by
              obtain ⟨-, hlt⟩ := hcovers
              have := hsame.2
              simp only [Partition.finish] at hlt this ho
              simp only [Partition.Covers, Partition.finish]
              omega)
            exact ⟨t, ht, htcovers, htkind.trans hsame.1.symm⟩
        · exact hlater p (List.mem_cons_of_mem r hp) hcovers
      · rcases List.mem_cons.mp hp with rfl | hp
        · exact ⟨p, List.mem_cons_self, hcovers, rfl⟩
        · exact hlater p hp hcovers

/-- Neighbours that are left differ in kind, for in a tiling one begins where the other ends. -/
theorem isChain_join (h : Tiles start ps finish) :
    (join ps).IsChain fun p q => p.kind ≠ q.kind := by
  induction ps generalizing start with
  | nil => exact .nil
  | cons p rest ih =>
    obtain ⟨hoffset, hpos, hrest⟩ := h
    have hchain := ih hrest
    have htiles := tiles_join hrest
    rw [join]
    cases hjoin : join rest with
    | nil => exact .singleton p
    | cons q later =>
      rw [hjoin] at hchain htiles
      rw [joinFirst]
      split
      · next hsame =>
        cases later with
        | nil => exact .singleton _
        | cons r later =>
          rw [List.isChain_cons_cons] at hchain ⊢
          exact ⟨fun hkind => hchain.1 (hsame.1.symm.trans hkind), hchain.2⟩
      · next hdiffer =>
        refine .cons_cons (fun hkind => hdiffer ⟨hkind, ?_⟩) hchain
        exact htiles.1.symm

end Join

section Lookup

/-- An offset cuts a tiling at the partition that covers it: those before end by then, and those
behind begin later. -/
theorem exists_cut_of_tiles {start finish o : Nat} {ps : List Partition} (h : Tiles start ps finish)
    (hstart : start ≤ o) (hfinish : o < finish) :
    ∃ front p back, ps = front ++ p :: back ∧ (∀ q ∈ front, q.finish ≤ o) ∧ p.Covers o ∧
      ∀ q ∈ back, o < q.offset := by
  induction ps generalizing start with
  | nil =>
    rw [tiles_nil] at h
    omega
  | cons q rest ih =>
    obtain ⟨hoffset, hpos, hrest⟩ := h
    by_cases ho : o < q.finish
    · refine ⟨[], q, rest, rfl, fun _ hq => (nomatch hq), ⟨by omega, ho⟩, fun r hr => ?_⟩
      exact Nat.lt_of_lt_of_le ho (le_offset_of_mem_tiles hrest r hr)
    · obtain ⟨front, p, back, rfl, hfront, hcovers, hback⟩ := ih hrest (Nat.le_of_not_lt ho)
      refine ⟨q :: front, p, back, rfl, fun r hr => ?_, hcovers, hback⟩
      rcases List.mem_cons.mp hr with rfl | hr
      · exact Nat.le_of_not_lt ho
      · exact hfront r hr

/-- The first partition that ends behind an offset is the one at the cut. -/
theorem find?_of_cut {front back : List Partition} {p : Partition} {o : Nat}
    (hfront : ∀ q ∈ front, q.finish ≤ o) (hcovers : p.Covers o) :
    (front ++ p :: back).find? (o < ·.finish) = some p := by
  have hnone : front.find? (o < ·.finish) = none := by
    rw [List.find?_eq_none]
    intro q hq
    simpa using hfront q hq
  rw [List.find?_append, hnone, Option.none_or, List.find?_cons_of_pos (by simpa using hcovers.2)]

/-- A partition of a tiling is found at every offset that it covers. -/
theorem find?_of_mem_tiles {start finish o : Nat} {ps : List Partition} {p : Partition}
    (h : Tiles start ps finish) (hp : p ∈ ps) (ho : p.Covers o) :
    ps.find? (o < ·.finish) = some p := by
  induction ps generalizing start with
  | nil => cases hp
  | cons q rest ih =>
    obtain ⟨-, -, hrest⟩ := h
    rcases List.mem_cons.mp hp with rfl | hp
    · exact List.find?_cons_of_pos (by simpa using ho.2)
    · have hle := Nat.le_trans (le_offset_of_mem_tiles hrest p hp) ho.1
      rw [List.find?_cons_of_neg (by simpa using hle)]
      exact ih hrest hp

/-- At the length of the map the last partition answers. -/
theorem partitionAt_length {m : PartitionMap} {d : Document} (hd : d.length = m.length) :
    m.partitionAt d m.length = .ok (m.partitions.getLast?.getD ⟨defaultKind, 0, 0⟩) := by
  rw [partitionAt, if_neg (by simpa using hd), if_neg (Nat.lt_irrefl m.length)]
  cases m.partitions.getLast? with
  | none => rfl
  | some last => rw [Option.getD_some]; exact if_pos rfl

theorem partitionAt_beyond {m : PartitionMap} {d : Document} (hd : d.length = m.length) {o : Nat}
    (ho : m.length < o) : m.partitionAt d o = .error (.badLocation o m.length) := by
  rw [partitionAt, if_neg (by simpa using hd), if_pos ho]

theorem partitionAt_stale {m : PartitionMap} {d : Document} (hd : d.length ≠ m.length) (o : Nat) :
    m.partitionAt d o = .error (.staleMap m.length d.length) := by
  rw [partitionAt, if_pos hd]

end Lookup

section Maps

variable (name : String) (length : Nat) (spans : List Partition)

theorem tiles_ofSpans_kept : Tiles 0 (ofSpans name length spans).partitions
    (max length (lastFinish 0 (keptFrom 0 spans))) :=
  tiles_join (tiles_fill_kept length 0 spans)

/-- No partition of a map ends behind both the text and all spans. -/
theorem finish_le_of_mem_ofSpans {finish : Nat} (hlength : length ≤ finish)
    (hspans : ∀ s ∈ spans, s.finish ≤ finish) {p : Partition}
    (hp : p ∈ (ofSpans name length spans).partitions) : p.finish ≤ finish :=
  Nat.le_trans (finish_le_of_mem_tiles (tiles_ofSpans_kept name length spans) p hp)
    (Nat.max_le.mpr ⟨hlength, lastFinish_le fun s hs => hspans s (mem_of_mem_keptFrom hs)⟩)

/-- In a map every offset has the kind of the kept span that covers it. -/
theorem isKindAt_ofSpans {p : Partition} (hp : p ∈ (ofSpans name length spans).partitions) {o : Nat}
    (hcovers : p.Covers o) : IsKindAt (keptFrom 0 spans) o p.kind := by
  obtain ⟨q, hq, hqcovers, hkind⟩ :=
    exists_of_mem_join (tiles_fill_kept length 0 spans) hp hcovers
  rw [← hkind]
  exact isKindAt_fill length 0 spans hq hqcovers

/-- Every offset of the text is found, in the partition at which it cuts the map. -/
theorem exists_partitionAt {d : Document} (hd : d.length = length) {o : Nat} (ho : o < length) :
    ∃ front p back, (ofSpans name length spans).partitions = front ++ p :: back ∧
      (∀ q ∈ front, q.finish ≤ o) ∧ p.Covers o ∧ (∀ q ∈ back, o < q.offset) ∧
      (ofSpans name length spans).partitionAt d o = .ok p := by
  obtain ⟨front, p, back, hcut, hfront, hcovers, hback⟩ :=
    exists_cut_of_tiles (tiles_ofSpans_kept name length spans) (Nat.zero_le o)
      (Nat.lt_of_lt_of_le ho (Nat.le_max_left length _))
  refine ⟨front, p, back, hcut, hfront, hcovers, hback, ?_⟩
  rw [partitionAt_eq_ok_iff hd (by simp [hcut]) ho, hcut]
  exact find?_of_cut hfront hcovers

/-- Each partition is found at the offsets of the text that it covers. -/
theorem partitionAt_ofSpans {d : Document} (hd : d.length = length) {p : Partition}
    (hp : p ∈ (ofSpans name length spans).partitions) {o : Nat} (hcovers : p.Covers o)
    (ho : o < length) : (ofSpans name length spans).partitionAt d o = .ok p := by
  rw [partitionAt_eq_ok_iff hd (List.ne_nil_of_mem hp) ho]
  exact find?_of_mem_tiles (tiles_ofSpans_kept name length spans) hp hcovers

end Maps

/-- A map of any spans tiles the text without gaps or equal neighbours, gives every offset the kind
of the kept span that covers it, and finds at every offset of a text of its length the one partition
that covers it. The partitions that end at or before an offset all stand before the others, so that
the place between them can be searched for by halving. -/
theorem ofSpans_exact (name : String) (length : Nat) (spans : List Partition) :
    let m := ofSpans name length spans
    let kept := keptFrom 0 spans
    let finish := max length (lastFinish 0 kept)
    Tiles 0 m.partitions finish ∧
    m.partitions.IsChain (fun p q => p.kind ≠ q.kind) ∧
    (∀ p ∈ m.partitions, ∀ o, p.Covers o → IsKindAt kept o p.kind) ∧
    (∀ o < finish, ∃! p, p ∈ m.partitions ∧ p.Covers o) ∧
    ∀ d : Document,
      (d.length = length →
        (∀ o < length, ∃ front p back, m.partitions = front ++ p :: back ∧
          (∀ q ∈ front, q.finish ≤ o) ∧ p.Covers o ∧ (∀ q ∈ back, o < q.offset) ∧
          m.partitionAt d o = .ok p) ∧
        m.partitionAt d length = .ok (m.partitions.getLast?.getD ⟨defaultKind, 0, 0⟩) ∧
        ∀ o, length < o → m.partitionAt d o = .error (.badLocation o length)) ∧
      (d.length ≠ length → ∀ o, m.partitionAt d o = .error (.staleMap length d.length)) := by
  intro m kept finish
  have htiles : Tiles 0 m.partitions finish := tiles_ofSpans_kept name length spans
  refine ⟨htiles, isChain_join (tiles_fill_kept length 0 spans),
    fun p hp o => isKindAt_ofSpans name length spans hp, fun o ho => ?_,
    fun d => ⟨fun hd => ?_, ?_⟩⟩
  · obtain ⟨front, p, back, hcut, hfront, hcovers, hback⟩ :=
      exists_cut_of_tiles htiles (Nat.zero_le o) ho
    refine ⟨p, ⟨by simp [hcut], hcovers⟩, ?_⟩
    rintro q ⟨hq, hqcovers⟩
    rw [hcut, List.mem_append, List.mem_cons] at hq
    rcases hq with hq | hq | hq
    · exact absurd hqcovers.2 (Nat.not_lt.mpr (hfront q hq))
    · exact hq
    · exact absurd hqcovers.1 (Nat.not_le.mpr (hback q hq))
  · exact ⟨fun o ho => exists_partitionAt name length spans hd ho, partitionAt_length hd,
      fun o ho => partitionAt_beyond hd ho⟩
  · exact fun hd => partitionAt_stale hd

/-- Of these spans the second overlaps and the fourth is empty, the first and third are joined, and
the last overhangs the text. -/
theorem ofSpans_exact_overlapping :
    let spans : List Partition := [⟨"c", 2, 2⟩, ⟨"x", 3, 2⟩, ⟨"c", 4, 1⟩, ⟨"e", 6, 0⟩, ⟨"s", 7, 5⟩]
    let d := (Buffer.scratch "0123456789".toList).document
    d.length = 10 ∧ keptFrom 0 spans = [⟨"c", 2, 2⟩, ⟨"c", 4, 1⟩, ⟨"s", 7, 5⟩] ∧
      lastFinish 0 (keptFrom 0 spans) = 12 ∧
      (∃ p, (ofSpans "test" 10 spans).partitionAt d 4 = .ok p ∧ p.Covers 4 ∧ p.kind = "c") ∧
      (ofSpans "test" 10 spans).partitionAt d 11 = .error (.badLocation 11 10) := by
  intro spans d
  have hd : d.length = 10 := by decide
  obtain ⟨-, -, hkinds, -, hlookup⟩ := ofSpans_exact "test" 10 spans
  obtain ⟨hinside, -, hbeyond⟩ := (hlookup d).1 hd
  obtain ⟨front, p, back, hcut, -, hcovers, -, hp⟩ := hinside 4 (by decide)
  have hkind : p.kind = "c" :=
    (hkinds p (by simp [hcut]) 4 hcovers).1 ⟨"c", 4, 1⟩ (by decide) (by decide)
  exact ⟨hd, by decide, by decide, ⟨p, hp, hcovers, hkind⟩, hbeyond 11 (by decide)⟩

end PartitionMap

end PartitionScan
