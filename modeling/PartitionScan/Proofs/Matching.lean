import PartitionScan.Proofs.Search

/-!
# Programs accept what expressions match

What an expression matches is said here on the text alone, and the program of the expression accepts
exactly that. Nodes laid out for a part of the expression lead from their first number to the number
behind them, over the characters that the part matches. The parts of a sequence, the branches of a
choice and the rounds of a repetition are joined by composing such ways.
-/
namespace PartitionScan.Pattern

def Repeats (R : Nat → Nat → Prop) : Nat → Nat → Nat → Prop
  | 0, i, j => i = j
  | n + 1, i, j => ∃ k, R i k ∧ Repeats R n k j

theorem repeats_add {R : Nat → Nat → Prop} {m n i j : Nat} :
    Repeats R (m + n) i j ↔ ∃ k, Repeats R m i k ∧ Repeats R n k j := by
  induction m generalizing i with
  | zero => simp [Repeats]
  | succ m ih =>
    rw [Nat.succ_add]
    constructor
    · rintro ⟨k, hk, hrest⟩
      obtain ⟨l, hl, hn⟩ := ih.mp hrest
      exact ⟨l, ⟨k, hk, hl⟩, hn⟩
    · rintro ⟨l, ⟨k, hk, hl⟩, hn⟩
      exact ⟨k, hk, ih.mpr ⟨l, hl, hn⟩⟩

/-- Whether an expression matches the characters from place `i` up to place `j`. A repetition is
taken at least as often as it must, even if it may be taken less often. -/
def Expr.Matches (text : Array Char) : Expr → Nat → Nat → Prop
  | empty, i, j => j = i
  | literal first rest, i, j =>
    (first :: rest) <+: text.toList.drop i ∧ j = i + (first :: rest).length
  | one set, i, j => (text[i]?).any set.hasChar ∧ j = i + 1
  | anchor a, i, j => a.holds text i ∧ j = i
  | group _ body, i, j => body.Matches text i j
  | seq a b, i, j => ∃ k, a.Matches text i k ∧ b.Matches text k j
  | alt a b, i, j => a.Matches text i j ∨ b.Matches text i j
  | times _ least most body, i, j =>
    ∃ n, least ≤ n ∧ (∀ m ∈ most, n ≤ max least m) ∧ Repeats (body.Matches text) n i j

section

variable {program : Array Node} {text : Array Char}

def Holds (program : Array Node) (start : Nat) (nodes : List Node) : Prop :=
  ∀ k node, nodes[k]? = some node → program[start + k]? = some node

theorem Holds.head {start : Nat} {node : Node} {nodes : List Node}
    (h : Holds program start (node :: nodes)) : program[start]? = some node :=
  h 0 node rfl

theorem Holds.tail {start : Nat} {node : Node} {nodes : List Node}
    (h : Holds program start (node :: nodes)) : Holds program (start + 1) nodes := by
  intro k other hk
  rw [Nat.add_right_comm]
  exact h (k + 1) other hk

theorem Holds.left {start : Nat} {front back : List Node}
    (h : Holds program start (front ++ back)) :
    Holds program start front := by
  intro k node hk
  have hlt := (List.getElem?_eq_some_iff.mp hk).1
  exact h k node (by rw [List.getElem?_append_left hlt, hk])

theorem Holds.right {start size : Nat} {front back : List Node}
    (h : Holds program start (front ++ back)) (hsize : front.length = size) :
    Holds program (start + size) back := by
  intro k node hk
  rw [Nat.add_assoc]
  refine h (size + k) node ?_
  rw [List.getElem?_append_right (by omega), hsize, Nat.add_sub_cancel_left, hk]

/-- From node `start`, acceptance is only reached by way of node `next`, over the characters that
the relation allows, and over all of them. -/
structure Realizes (program : Array Node) (text : Array Char) (start next : Nat)
    (R : Nat → Nat → Prop) : Prop where
  sound : ∀ {n i j}, AcceptsIn program text n start i j →
    ∃ k, R i k ∧ ∃ m ≤ n, AcceptsIn program text m next k j
  complete : ∀ {i k j}, R i k → Accepts program text next k j → Accepts program text start i j

namespace Realizes

variable {start middle next : Nat} {R S : Nat → Nat → Prop}

theorem refl (program : Array Node) (text : Array Char) (q : Nat) :
    Realizes program text q q fun i j => j = i where
  sound h := ⟨_, rfl, _, Nat.le_refl _, h⟩
  complete := by
    rintro i k j rfl h
    exact h

theorem trans (h : Realizes program text start middle R)
    (h' : Realizes program text middle next S) :
    Realizes program text start next fun i j => ∃ k, R i k ∧ S k j where
  sound hn := by
    obtain ⟨k, hk, m, hm, hmiddle⟩ := h.sound hn
    obtain ⟨l, hl, m', hm', hnext⟩ := h'.sound hmiddle
    exact ⟨l, ⟨k, hk, hl⟩, m', Nat.le_trans hm' hm, hnext⟩
  complete := by
    rintro i l j ⟨k, hk, hl⟩ hnext
    exact h.complete hk (h'.complete hl hnext)

theorem congr (h : Realizes program text start next R) (hR : ∀ i j, R i j ↔ S i j) :
    Realizes program text start next S where
  sound hn := by
    obtain ⟨k, hk, hnext⟩ := h.sound hn
    exact ⟨k, (hR _ k).mp hk, hnext⟩
  complete hk := h.complete ((hR _ _).mpr hk)

/-- A node that leads nowhere but to `next`. -/
theorem node {node : Node} (hq : program[start]? = some node) (hnode : node ≠ .accept)
    (hsucc : ∀ i s, s ∈ node.successors text i ↔ s.1 = next ∧ R i s.2) :
    Realizes program text start next R where
  sound {n i j} h := by
    cases n with
    | zero => exact absurd (Option.some.inj (hq.symm.trans h.1)) hnode
    | succ n =>
      obtain ⟨other, hother, s, hs, haccepts⟩ := h
      obtain rfl := Option.some.inj (hq.symm.trans hother)
      obtain ⟨rfl, hR⟩ := (hsucc i s).mp hs
      exact ⟨s.2, hR, n, Nat.le_succ n, haccepts⟩
  complete {i k j} hk h := .step hq ((hsucc i (next, k)).mpr ⟨rfl, hk⟩) h

end Realizes

theorem Node.mem_successors_forkTo {greedy : Bool} {more leave i : Nat} {s : Nat × Nat} :
    s ∈ (Node.forkTo greedy more leave).successors text i ↔ s = (more, i) ∨ s = (leave, i) := by
  cases greedy <;> simp [forkTo, successors, or_comm]

theorem Node.forkTo_ne_accept (greedy : Bool) (more leave : Nat) :
    Node.forkTo greedy more leave ≠ .accept := by
  cases greedy <;> simp [forkTo]

/-- The ways that lead on from a fork. -/
theorem acceptsIn_forkTo {greedy : Bool} {start more leave n i j : Nat}
    (hq : program[start]? = some (.forkTo greedy more leave))
    (h : AcceptsIn program text n start i j) :
    ∃ m < n, AcceptsIn program text m more i j ∨ AcceptsIn program text m leave i j := by
  cases n with
  | zero => exact absurd (Option.some.inj (hq.symm.trans h.1)) (Node.forkTo_ne_accept _ _ _)
  | succ n =>
    obtain ⟨node, hnode, s, hs, haccepts⟩ := h
    obtain rfl := Option.some.inj (hq.symm.trans hnode)
    rcases Node.mem_successors_forkTo.mp hs with rfl | rfl
    · exact ⟨n, Nat.lt_succ_self n, .inl haccepts⟩
    · exact ⟨n, Nat.lt_succ_self n, .inr haccepts⟩

namespace Realizes

variable {start middle next : Nat} {R S : Nat → Nat → Prop} {greedy : Bool} {more leave : Nat}

theorem fork (hq : program[start]? = some (.forkTo greedy more leave))
    (hmore : Realizes program text more next R) (hleave : Realizes program text leave next S) :
    Realizes program text start next fun i j => R i j ∨ S i j where
  sound h := by
    obtain ⟨m, hm, h | h⟩ := acceptsIn_forkTo hq h
    · obtain ⟨k, hk, m', hm', hnext⟩ := hmore.sound h
      exact ⟨k, .inl hk, m', by omega, hnext⟩
    · obtain ⟨k, hk, m', hm', hnext⟩ := hleave.sound h
      exact ⟨k, .inr hk, m', by omega, hnext⟩
  complete := by
    rintro i k j (hk | hk) hnext
    · exact .step hq (Node.mem_successors_forkTo.mpr (.inl rfl)) (hmore.complete hk hnext)
    · exact .step hq (Node.mem_successors_forkTo.mpr (.inr rfl)) (hleave.complete hk hnext)

/-- A fork that its own body leads back to. -/
theorem loop (hq : program[start]? = some (.forkTo greedy more next))
    (hmore : Realizes program text more start R) :
    Realizes program text start next fun i j => ∃ n, Repeats R n i j where
  sound {n i j} h := by
    -- Each round comes back to the fork with fewer steps left.
    induction n using Nat.strong_induction_on generalizing i with
    | _ n ih =>
      obtain ⟨m, hm, h | h⟩ := acceptsIn_forkTo hq h
      · obtain ⟨k, hk, m', hm', hstart⟩ := hmore.sound h
        obtain ⟨l, ⟨count, hl⟩, m'', hm'', hnext⟩ := ih m' (by omega) hstart
        exact ⟨l, ⟨count + 1, k, hk, hl⟩, m'', by omega, hnext⟩
      · exact ⟨i, ⟨0, rfl⟩, m, Nat.le_of_lt hm, h⟩
  complete := by
    rintro i k j ⟨n, hn⟩ hnext
    induction n generalizing i with
    | zero =>
      obtain rfl : i = k := hn
      exact .step hq (Node.mem_successors_forkTo.mpr (.inr rfl)) hnext
    | succ n ih =>
      obtain ⟨l, hl, hrest⟩ := hn
      exact .step hq (Node.mem_successors_forkTo.mpr (.inl rfl)) (hmore.complete hl (ih hrest))

end Realizes

end

namespace Expr

theorem length_spell (first : Char) (rest : List Char) (start next : Nat) :
    (spell first rest start next).length = rest.length + 1 := by
  induction rest generalizing first start with
  | nil => rfl
  | cons second rest ih => rw [spell, List.length_cons, ih, List.length_cons]

theorem copies_succ (nodes : Nat → Nat → List Node) (size count start : Nat) :
    copies nodes size (count + 1) start =
      nodes start (start + size) ++ copies nodes size count (start + size) := by
  rw [copies, List.range_succ_eq_map, List.flatMap_cons, List.flatMap_map]
  simp only [Nat.zero_mul, Nat.add_zero, Nat.zero_add, Nat.one_mul]
  have hplace : ∀ k, start + k.succ * size = start + size + k * size := by
    intro k
    rw [Nat.succ_mul, Nat.add_comm (k * size), Nat.add_assoc]
  simp only [hplace, copies]

theorem length_copies {nodes : Nat → Nat → List Node} {size : Nat}
    (h : ∀ start next, (nodes start next).length = size) (count start : Nat) :
    (copies nodes size count start).length = count * size := by
  induction count generalizing start with
  | zero => rw [Nat.zero_mul]; rfl
  | succ count ih => rw [copies_succ, List.length_append, h, ih, Nat.succ_mul, Nat.add_comm]

/-- An expression has as many nodes as it says. -/
theorem length_nodes (e : Expr) (start next : Nat) : (e.nodes start next).length = e.size := by
  induction e generalizing start next with
  | empty => rfl
  | literal first rest => exact length_spell first rest start next
  | one set => rfl
  | anchor a => rfl
  | group number body ih => exact ih start next
  | seq a b iha ihb => rw [nodes, List.length_append, iha, ihb, size]
  | alt a b iha ihb =>
    rw [nodes, List.length_cons, List.length_append, iha, ihb, size]
    omega
  | times greedy least most body ih =>
    cases most with
    | none =>
      cases least with
      | zero =>
        rw [nodes, size]
        split
        · rw [List.length_cons, ih, Nat.add_comm]
        · rw [List.length_cons, List.length_append, ih, List.length_singleton]
          omega
      | succ n =>
        rw [nodes, size]
        simp only [List.length_append, List.length_singleton, length_copies ih, ih]
        rw [Nat.succ_mul]
    | some most =>
      have hround : ∀ leave i next, (Node.forkTo greedy (i + 1) leave ::
          body.nodes (i + 1) next).length = 1 + body.size := by
        intro leave i next
        rw [List.length_cons, ih, Nat.add_comm]
      rw [nodes, size]
      simp only [List.length_append, List.length_singleton, length_copies ih,
        length_copies (hround _)]

section

variable {program : Array Node} {text : Array Char}

theorem realizes_skip {start next : Nat} (hq : program[start]? = some (.skip next)) :
    Realizes program text start next (empty.Matches text) := by
  refine .node hq (by simp) fun i s => ?_
  simp [Node.successors, Matches, Prod.ext_iff]

theorem realizes_one {set : Text.Ranges} {start next : Nat}
    (hq : program[start]? = some (.one set next)) :
    Realizes program text start next ((one set).Matches text) := by
  refine .node hq (by simp) fun i s => ?_
  rw [Matches, Node.successors]
  split
  · next h => simp [h, Prod.ext_iff]
  · next h => simp [h]

theorem matches_single {c : Char} {i j : Nat} :
    (one (Text.Ranges.single c.toNat)).Matches text i j ↔ text[i]? = some c ∧ j = i + 1 := by
  simp [Matches, Text.Ranges.hasChar, Option.any_eq_true, Char.toNat_inj]

theorem cons_prefix_drop {c : Char} {rest : List Char} {i : Nat} :
    (c :: rest) <+: text.toList.drop i ↔
      text[i]? = some c ∧ rest <+: text.toList.drop (i + 1) := by
  rw [← Array.getElem?_toList]
  by_cases hi : i < text.toList.length
  · rw [List.drop_eq_getElem_cons hi, List.cons_prefix_cons, List.getElem?_eq_getElem hi,
      Option.some.injEq, eq_comm]
  · rw [List.drop_of_length_le (Nat.not_lt.mp hi), List.getElem?_eq_none (Nat.not_lt.mp hi)]
    simp

/-- The nodes of a literal lead over its characters. -/
theorem realizes_spell (first : Char) (rest : List Char) (start next : Nat)
    (h : Holds program start (spell first rest start next)) :
    Realizes program text start next ((literal first rest).Matches text) := by
  induction rest generalizing first start with
  | nil =>
    refine (realizes_one h.head).congr fun i j => ?_
    rw [matches_single, Matches, cons_prefix_drop]
    simp
  | cons second rest ih =>
    refine ((realizes_one h.head).trans (ih second (start + 1) h.tail)).congr fun i j => ?_
    constructor
    · rintro ⟨k, hfirst, hrest, rfl⟩
      obtain ⟨hc, rfl⟩ := matches_single.mp hfirst
      refine ⟨cons_prefix_drop.mpr ⟨hc, hrest⟩, ?_⟩
      simp only [List.length_cons]
      omega
    · rintro ⟨hword, rfl⟩
      obtain ⟨hc, hrest⟩ := cons_prefix_drop.mp hword
      refine ⟨i + 1, matches_single.mpr ⟨hc, rfl⟩, hrest, ?_⟩
      simp only [List.length_cons]
      omega

/-- Copies of nodes lead as often over what one copy leads over. -/
theorem realizes_copies {nodes : Nat → Nat → List Node} {size : Nat} {R : Nat → Nat → Prop}
    (hlength : ∀ start next, (nodes start next).length = size)
    (hnodes : ∀ start next, Holds program start (nodes start next) →
      Realizes program text start next R)
    (count start : Nat) (h : Holds program start (copies nodes size count start)) :
    Realizes program text start (start + count * size) (Repeats R count) := by
  induction count generalizing start with
  | zero =>
    rw [Nat.zero_mul]
    exact (Realizes.refl program text start).congr fun i j => eq_comm
  | succ count ih =>
    rw [copies_succ] at h
    have hrest := ih (start + size) (h.right (hlength _ _))
    rw [Nat.succ_mul, Nat.add_comm (count * size), ← Nat.add_assoc]
    exact (hnodes _ _ h.left).trans hrest

section

variable {body : Expr} {greedy : Bool}
  (hbody : ∀ start next, Holds program start (body.nodes start next) →
    Realizes program text start next (body.Matches text))

include hbody

/-- Copies that can each be left lead at most as often over it. -/
theorem realizes_options {leave : Nat} (count start : Nat)
    (hleave : start + count * (1 + body.size) = leave)
    (h : Holds program start (copies
      (fun i next => .forkTo greedy (i + 1) leave :: body.nodes (i + 1) next)
      (1 + body.size) count start)) :
    Realizes program text start leave fun i j =>
      ∃ n ≤ count, Repeats (body.Matches text) n i j := by
  induction count generalizing start with
  | zero =>
    obtain rfl : start = leave := by omega
    refine (Realizes.refl program text start).congr fun i j => ?_
    simp [Repeats, eq_comm]
  | succ count ih =>
    rw [copies_succ] at h
    have hrest := ih (start + (1 + body.size)) (by rw [← hleave, Nat.succ_mul]; omega)
      (h.right (by rw [List.length_cons, length_nodes, Nat.add_comm]))
    refine (Realizes.fork h.left.head ((hbody _ _ h.left.tail).trans hrest)
      (Realizes.refl program text leave)).congr fun i j => ?_
    constructor
    · rintro (⟨k, hk, n, hn, hrest⟩ | rfl)
      · exact ⟨n + 1, Nat.succ_le_succ hn, k, hk, hrest⟩
      · exact ⟨0, Nat.zero_le _, rfl⟩
    · rintro ⟨n, hn, hrepeats⟩
      cases n with
      | zero => exact .inr (Eq.symm hrepeats)
      | succ n =>
        obtain ⟨k, hk, hrest⟩ := hrepeats
        exact .inl ⟨k, hk, n, Nat.le_of_succ_le_succ hn, hrest⟩

/-- A repetition that may be left out. If its body may match nothing, the first round is told apart
from the others. -/
theorem realizes_star (start next : Nat)
    (h : Holds program start ((times greedy 0 none body).nodes start next)) :
    Realizes program text start next ((times greedy 0 none body).Matches text) := by
  rw [nodes] at h
  split at h
  · refine (Realizes.loop h.head (hbody _ _ h.tail)).congr fun i j => ?_
    simp [Matches]
  · have hloop := Realizes.loop (h.tail.right (length_nodes _ _ _)).head (hbody _ _ h.tail.left)
    refine (Realizes.fork h.head ((hbody _ _ h.tail.left).trans hloop)
      (Realizes.refl program text next)).congr fun i j => ?_
    constructor
    · rintro (⟨k, hk, n, hrest⟩ | rfl)
      · exact ⟨n + 1, Nat.zero_le _, by simp, k, hk, hrest⟩
      · exact ⟨0, Nat.le_refl 0, by simp, rfl⟩
    · rintro ⟨n, -, -, hrepeats⟩
      cases n with
      | zero => exact .inr (Eq.symm hrepeats)
      | succ n =>
        obtain ⟨k, hk, hrest⟩ := hrepeats
        exact .inl ⟨k, hk, n, hrest⟩

/-- A repetition with a least number of rounds, the last of which may be taken again. -/
theorem realizes_atLeast (least start next : Nat)
    (h : Holds program start ((times greedy (least + 1) none body).nodes start next)) :
    Realizes program text start next ((times greedy (least + 1) none body).Matches text) := by
  have hlength := length_copies (length_nodes body) least start
  rw [nodes] at h
  have hcopies := realizes_copies (length_nodes body) hbody least start h.left.left
  have hlast := hbody _ _ (h.left.right hlength)
  have hfork := (h.right (by rw [List.length_append, hlength, length_nodes])).head
  rw [← Nat.add_assoc] at hfork
  refine (hcopies.trans (hlast.trans (Realizes.loop hfork hlast))).congr fun i j => ?_
  constructor
  · rintro ⟨k, hk, l, hl, n, hrest⟩
    refine ⟨least + (n + 1), by omega, by simp, ?_⟩
    exact repeats_add.mpr ⟨k, hk, l, hl, hrest⟩
  · rintro ⟨n, hn, -, hrepeats⟩
    obtain ⟨m, rfl⟩ : ∃ m, n = least + (m + 1) := ⟨n - least - 1, by omega⟩
    obtain ⟨k, hk, l, hl, hrest⟩ := repeats_add.mp hrepeats
    exact ⟨k, hk, l, hl, m, hrest⟩

/-- A repetition with a most number of rounds. -/
theorem realizes_atMost (least most start next : Nat)
    (h : Holds program start ((times greedy least (some most) body).nodes start next)) :
    Realizes program text start next ((times greedy least (some most) body).Matches text) := by
  have hlength := length_copies (length_nodes body) least start
  rw [nodes] at h
  have hcopies := realizes_copies (length_nodes body) hbody least start h.left.left
  have hoptions := realizes_options hbody _ _ rfl (h.left.right hlength)
  have hskip := (h.right (by
    rw [List.length_append, hlength, length_copies fun i next => by
      rw [List.length_cons, length_nodes, Nat.add_comm]])).head
  rw [← Nat.add_assoc] at hskip
  refine (hcopies.trans (hoptions.trans (realizes_skip hskip))).congr fun i j => ?_
  constructor
  · rintro ⟨k, hk, l, ⟨n, hn, hrest⟩, rfl⟩
    refine ⟨least + n, by omega, ?_, repeats_add.mpr ⟨k, hk, hrest⟩⟩
    simp only [Option.mem_def, Option.some.injEq, forall_eq']
    omega
  · rintro ⟨n, hn, hmost, hrepeats⟩
    have hle := hmost most rfl
    obtain ⟨m, rfl⟩ : ∃ m, n = least + m := ⟨n - least, by omega⟩
    obtain ⟨k, hk, hrest⟩ := repeats_add.mp hrepeats
    exact ⟨k, hk, j, ⟨m, by omega, hrest⟩, rfl⟩

end

/-- The nodes of an expression lead over what it matches. -/
theorem realizes_nodes (e : Expr) (start next : Nat)
    (h : Holds program start (e.nodes start next)) :
    Realizes program text start next (e.Matches text) := by
  induction e generalizing start next with
  | empty => exact realizes_skip h.head
  | literal first rest => exact realizes_spell first rest start next h
  | one set => exact realizes_one h.head
  | anchor a =>
    refine .node h.head (by simp) fun i s => ?_
    rw [Matches, Node.successors]
    split
    · next ha => simp [ha, Prod.ext_iff]
    · next ha => simp [ha]
  | group number body ih => exact ih start next h
  | seq a b iha ihb => exact (iha _ _ h.left).trans (ihb _ _ (h.right (length_nodes _ _ _)))
  | alt a b iha ihb =>
    have hq : program[start]? = some (.forkTo true (start + 1) (start + 1 + a.size)) := h.head
    exact .fork hq (iha _ _ h.tail.left) (ihb _ _ (h.tail.right (length_nodes _ _ _)))
  | times greedy least most body ih =>
    cases most with
    | none =>
      cases least with
      | zero => exact realizes_star ih start next h
      | succ least => exact realizes_atLeast ih least start next h
    | some most => exact realizes_atMost ih least most start next h

/-- The program of an expression accepts exactly what the expression matches. -/
theorem accepts_program_iff (e : Expr) {i j : Nat} :
    Accepts e.program text 0 i j ↔ e.Matches text i j := by
  have hholds : Holds e.program 0 (e.nodes 0 e.size ++ [.accept]) := by
    intro k node hk
    rw [Nat.zero_add, program, List.getElem?_toArray, hk]
  have hrealizes : Realizes e.program text 0 e.size (e.Matches text) :=
    realizes_nodes e 0 e.size hholds.left
  have haccept : e.program[e.size]? = some .accept := by
    simpa using (hholds.right (length_nodes e 0 e.size)).head
  constructor
  · rintro ⟨n, hn⟩
    obtain ⟨k, hk, m, -, hm⟩ := hrealizes.sound hn
    cases m with
    | zero =>
      obtain ⟨-, rfl⟩ := hm
      exact hk
    | succ m =>
      obtain ⟨node, hnode, s, hs, -⟩ := hm
      obtain rfl := Option.some.inj (haccept.symm.trans hnode)
      exact absurd hs List.not_mem_nil
  · exact fun h => hrealizes.complete h (.here haccept)

/-- Over characters of a set, a repetition of the set goes as far as it likes. -/
theorem repeats_one {set : Text.Ranges} (hset : ∀ (i : Nat) c, text[i]? = some c → set.hasChar c)
    {n i : Nat} (h : i + n ≤ text.size) : Repeats ((one set).Matches text) n i (i + n) := by
  induction n generalizing i with
  | zero => rfl
  | succ n ih =>
    have hi : text[i]? = some text[i] := Array.getElem?_eq_getElem (by omega)
    have hrest := ih (i := i + 1) (by omega)
    rw [Nat.add_right_comm] at hrest
    exact ⟨i + 1, ⟨by rw [hi, Option.any_some]; exact hset i _ hi, rfl⟩, hrest⟩

def toEnd (first : Char) (rest : List Char) (set : Text.Ranges) : Expr :=
  seq (literal first rest) (seq (times true 0 none (one set)) (anchor .textEnd))

theorem matches_toEnd {first : Char} {rest : List Char} {set : Text.Ranges}
    (hset : ∀ (i : Nat) c, text[i]? = some c → set.hasChar c) {i j : Nat} :
    (toEnd first rest set).Matches text i j ↔
      (first :: rest) <+: text.toList.drop i ∧ j = text.size := by
  constructor
  · rintro ⟨k, ⟨hword, rfl⟩, l, -, hend, rfl⟩
    exact ⟨hword, by simpa [Anchor.holds] using hend⟩
  · rintro ⟨hword, rfl⟩
    have hlength : i + (first :: rest).length ≤ text.size := by
      have hprefix := hword.length_le
      have hsize : text.toList.length = text.size := Array.length_toList
      rw [List.length_drop] at hprefix
      simp only [List.length_cons] at hprefix ⊢
      omega
    obtain ⟨n, hn⟩ := Nat.exists_eq_add_of_le hlength
    refine ⟨_, ⟨hword, rfl⟩, text.size, ⟨n, Nat.zero_le n, by simp, ?_⟩, by simp [Anchor.holds],
      rfl⟩
    have hrepeats := repeats_one hset (Nat.le_of_eq hn.symm)
    rwa [← hn] at hrepeats

end

end Expr

end PartitionScan.Pattern
