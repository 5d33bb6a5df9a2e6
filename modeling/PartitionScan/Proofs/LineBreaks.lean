import Mathlib.Order.Monotone.Defs
import PartitionScan.Proofs.LineKinds
import PartitionScan.Proofs.Peers

/-!
# Line breaks of either convention

A text keeps its meaning when every LF is written as CR LF. Its lines keep their content and get
longer delimiters, so that what stands at an offset moves back by the number of breaks before it.
There it has the kind that it had, and since no pair is made of line breaks, the peers move with it.
-/
namespace PartitionScan

def crlfChar (c : Char) : List Char := if c = '\n' then ['\r', '\n'] else [c]

def crlfText (text : List Char) : List Char := text.flatMap crlfChar

/-- Where the character at an offset of a text goes: it has one more character before it for every
LF. -/
def crlfOffset (text : List Char) (o : Nat) : Nat := o + (text.take o).count '\n'

section

variable {text front back : List Char} {c : Char} {o : Nat}

@[simp] theorem crlfText_nil : crlfText [] = [] := rfl

@[simp] theorem crlfText_cons (c : Char) (text : List Char) :
    crlfText (c :: text) = crlfChar c ++ crlfText text := rfl

@[simp] theorem crlfText_append (front back : List Char) :
    crlfText (front ++ back) = crlfText front ++ crlfText back :=
  List.flatMap_append

theorem crlfChar_of_ne (h : c ≠ '\n') : crlfChar c = [c] := if_neg h

theorem length_crlfText (text : List Char) :
    (crlfText text).length = text.length + text.count '\n' := by
  induction text with
  | nil => rfl
  | cons c text ih =>
    rw [crlfText_cons, List.length_append, ih, List.length_cons, List.count_cons, crlfChar]
    by_cases hc : c = '\n'
    · simp [hc]
      omega
    · simp [hc]
      omega

theorem crlfText_of_not_mem (h : '\n' ∉ text) : crlfText text = text := by
  induction text with
  | nil => rfl
  | cons c text ih =>
    rw [List.mem_cons, not_or] at h
    rw [crlfText_cons, crlfChar_of_ne fun hc => h.1 hc.symm, ih h.2, List.singleton_append]

@[simp] theorem crlfOffset_zero (text : List Char) : crlfOffset text 0 = 0 := rfl

theorem crlfOffset_length (text : List Char) :
    crlfOffset text text.length = (crlfText text).length := by
  rw [crlfOffset, List.take_length, length_crlfText]

theorem crlfOffset_append_left (h : o ≤ front.length) :
    crlfOffset (front ++ back) o = crlfOffset front o := by
  rw [crlfOffset, List.take_append_of_le_length h, crlfOffset]

theorem crlfOffset_append_right (front back : List Char) (o : Nat) :
    crlfOffset (front ++ back) (front.length + o) =
      (crlfText front).length + crlfOffset back o := by
  rw [crlfOffset, List.take_length_add_append, List.count_append, length_crlfText, crlfOffset]
  omega

theorem crlfOffset_of_not_mem (h : '\n' ∉ text) : crlfOffset text o = o := by
  rw [crlfOffset, List.count_eq_zero.mpr fun hmem => h (List.mem_of_mem_take hmem), Nat.add_zero]

theorem crlfOffset_strictMono (text : List Char) : StrictMono (crlfOffset text) := by
  intro o p hlt
  have hcount : (text.take o).count '\n' ≤ (text.take p).count '\n' :=
    (List.take_sublist_take_left (Nat.le_of_lt hlt)).count_le '\n'
  rw [crlfOffset, crlfOffset]
  omega

/-- What is written for the character at an offset stands where the character goes. -/
theorem getElem?_crlfText (h : text[o]? = some c) {i : Nat} (hi : i < (crlfChar c).length) :
    (crlfText text)[crlfOffset text o + i]? = (crlfChar c)[i]? := by
  obtain ⟨hlt, hc⟩ := List.getElem?_eq_some_iff.mp h
  have hcut : text = text.take o ++ (c :: text.drop (o + 1)) := by
    rw [← hc, List.getElem_cons_drop, List.take_append_drop]
  have hlength : (text.take o).length = o := List.length_take_of_le (Nat.le_of_lt hlt)
  have hoffset : crlfOffset text o = (crlfText (text.take o)).length := by
    rw [length_crlfText, hlength, crlfOffset]
  have htext : crlfText text =
      crlfText (text.take o) ++ (crlfChar c ++ crlfText (text.drop (o + 1))) := by
    rw [← crlfText_cons, ← crlfText_append, ← hcut]
  rw [htext, hoffset, List.getElem?_append_right (Nat.le_add_right _ i), Nat.add_sub_cancel_left,
    List.getElem?_append_left hi]

theorem getElem?_crlfText_of_ne (h : text[o]? = some c) (hc : c ≠ '\n') :
    (crlfText text)[crlfOffset text o]? = some c := by
  have hchar := crlfChar_of_ne hc
  have hmoved := getElem?_crlfText h (i := 0) (by simp [hchar])
  rwa [hchar] at hmoved

theorem crlfOffset_succ (h : text[o]? = some c) :
    crlfOffset text (o + 1) = crlfOffset text o + (crlfChar c).length := by
  obtain ⟨hlt, hc⟩ := List.getElem?_eq_some_iff.mp h
  rw [crlfOffset, List.take_succ_eq_append_getElem hlt, hc, List.count_append, List.count_singleton,
    crlfOffset, crlfChar]
  by_cases hlf : c = '\n'
  · simp [hlf]
    omega
  · simp [hlf]
    omega

end

namespace Line

def withCrlf (l : Line) : Line := { l with delimiter := crlfText l.delimiter }

@[simp] theorem content_withCrlf (l : Line) : l.withCrlf.content = l.content := rfl

@[simp] theorem delimiter_withCrlf (l : Line) : l.withCrlf.delimiter = crlfText l.delimiter := rfl

theorem length_withCrlf {l : Line} (h : '\n' ∉ l.content) :
    l.withCrlf.length = (crlfText l.chars).length := by
  rw [chars, crlfText_append, crlfText_of_not_mem h, List.length_append, length, content_withCrlf,
    delimiter_withCrlf]

theorem map_withCrlf_pushFirst (c : Char) (lines : List Line) :
    (pushFirst c lines).map withCrlf = pushFirst c (lines.map withCrlf) := by
  cases lines <;> rfl

/-- The lines of the text with CR LF are those of the text, with CR LF. -/
theorem splitAll_crlfText {text : List Char} (h : '\r' ∉ text) :
    splitAll (crlfText text) = (splitAll text).map withCrlf := by
  induction text with
  | nil => rfl
  | cons c text ih =>
    rw [List.mem_cons, not_or] at h
    by_cases hlf : c = '\n'
    · subst hlf
      change splitAll ('\r' :: '\n' :: crlfText text) = _
      rw [splitAll, splitAll, ih h.2]
      rfl
    · have hplain : IsPlain c := ⟨hlf, fun hcr => h.1 hcr.symm⟩
      rw [crlfText_cons, crlfChar_of_ne hlf, List.singleton_append, splitAll_plain hplain,
        splitAll_plain hplain, ih h.2, map_withCrlf_pushFirst]

end Line

namespace Engine

variable (e : Engine) (lang : Language)

/-- The characters of a line keep their kinds. Those of its delimiter have one kind anyway. -/
theorem lineKinds_withCrlf {l : Line} (hl : '\n' ∉ l.content) (state : Nat) {o : Nat}
    (ho : o < l.length) : (e.lineKinds lang state l.withCrlf)[crlfOffset l.chars o]? =
      (e.lineKinds lang state l)[o]? := by
  rw [lineKinds, lineKinds, Line.content_withCrlf, Line.delimiter_withCrlf, Line.chars]
  generalize e.placeSpans lang l.content state = result
  have hlength : (result.kindsFrom 0 l.content.length).length = l.content.length := by
    simp [LineSpans.kindsFrom]
  by_cases hcontent : o < l.content.length
  · rw [crlfOffset_append_left (Nat.le_of_lt hcontent), crlfOffset_of_not_mem hl,
      List.getElem?_append_left (by omega), List.getElem?_append_left (by omega)]
  · obtain ⟨k, rfl⟩ := Nat.exists_eq_add_of_le (Nat.le_of_not_lt hcontent)
    have hk : k < l.delimiter.length := by
      rw [Line.length] at ho
      omega
    have hk' : crlfOffset l.delimiter k < (crlfText l.delimiter).length := by
      rw [← crlfOffset_length]
      exact crlfOffset_strictMono l.delimiter hk
    rw [crlfOffset_append_right, crlfText_of_not_mem hl, List.getElem?_append_right (by omega),
      List.getElem?_append_right (by omega), hlength, Nat.add_sub_cancel_left,
      Nat.add_sub_cancel_left, List.getElem?_replicate_of_lt hk', List.getElem?_replicate_of_lt hk]

/-- So do those of lines, for delimiters do not change the state of the next line. -/
theorem linesKinds_withCrlf {lines : List Line} (hlines : ∀ l ∈ lines, '\n' ∉ l.content)
    (state : Nat) {o : Nat} (ho : o < Buffer.extent lines) :
    (e.linesKinds lang state (lines.map Line.withCrlf))[crlfOffset (Buffer.joined lines) o]? =
      (e.linesKinds lang state lines)[o]? := by
  induction lines generalizing state o with
  | nil => cases ho
  | cons l rest ih =>
    have hl : '\n' ∉ l.content := hlines l List.mem_cons_self
    have hjoined : Buffer.joined (l :: rest) = l.chars ++ Buffer.joined rest := rfl
    have hlength := Line.length_withCrlf hl
    rw [List.map_cons, linesKinds_cons, linesKinds_cons, hjoined]
    by_cases hfirst : o < l.length
    · have hlt : crlfOffset l.chars o < l.withCrlf.length := by
        rw [hlength, ← crlfOffset_length, Line.length_chars]
        exact crlfOffset_strictMono l.chars hfirst
      rw [crlfOffset_append_left (by rw [Line.length_chars]; omega),
        List.getElem?_append_left (by rwa [length_lineKinds]),
        List.getElem?_append_left (by rwa [length_lineKinds]),
        e.lineKinds_withCrlf lang hl state hfirst]
    · obtain ⟨k, rfl⟩ := Nat.exists_eq_add_of_le (Nat.le_of_not_lt hfirst)
      rw [← Line.length_chars, crlfOffset_append_right, ← hlength,
        List.getElem?_append_right (by rw [length_lineKinds]; omega),
        List.getElem?_append_right (by rw [length_lineKinds, Line.length_chars]; omega),
        length_lineKinds, length_lineKinds, Line.length_chars, Nat.add_sub_cancel_left,
        Nat.add_sub_cancel_left]
      rw [Buffer.extent_cons] at ho
      exact ih (fun k hk => hlines k (List.mem_cons_of_mem l hk)) _ (by omega)

/-- A character has the same kind in both texts. -/
theorem kindAt_crlfText {text : List Char} (h : '\r' ∉ text) (name name' : String) {o : Nat}
    (ho : o < text.length) :
    let b := Buffer.ofText name text
    let b' := Buffer.ofText name' (crlfText text)
    ∃ kind, (e.mapOf lang b).classifier.kindAt b.document o = .ok kind ∧
      (e.mapOf lang b').classifier.kindAt b'.document (crlfOffset text o) = .ok kind := by
  intro b b'
  have hlength : b.length = text.length := by rw [← Buffer.length_text, Buffer.text_ofText]
  have hlength' : b'.length = (crlfText text).length := by
    rw [← Buffer.length_text, Buffer.text_ofText]
  have ho' : crlfOffset text o < b'.length := by
    rw [hlength', ← crlfOffset_length]
    exact crlfOffset_strictMono text ho
  have hextent : o < Buffer.extent b.lines := by
    rw [← Buffer.length_eq_extent]
    omega
  have hlines : ∀ l ∈ Line.splitAll text, '\n' ∉ l.content := fun l hl hmem =>
    (Line.isPlain_of_mem_content hl '\n' hmem).1 rfl
  have hkinds : (e.linesKinds lang 0 b'.lines)[crlfOffset text o]? =
      (e.linesKinds lang 0 b.lines)[o]? := by
    have hmoved := e.linesKinds_withCrlf lang hlines 0 hextent
    rwa [← Line.splitAll_crlfText h, Buffer.joined, Line.flatMap_chars_splitAll] at hmoved
  have hlt : o < (e.linesKinds lang 0 b.lines).length := by rwa [length_linesKinds]
  refine ⟨(e.linesKinds lang 0 b.lines)[o], ?_, ?_⟩
  · rw [e.kindAt_eq_ok_iff lang (hlength ▸ ho), List.getElem?_eq_getElem hlt]
  · rw [e.kindAt_eq_ok_iff lang ho', hkinds, List.getElem?_eq_getElem hlt]

end Engine

namespace Scan

/-- A walk over mapped offsets ends where the walk over the offsets does. -/
theorem walk_map {deeper deeper' : Nat → Bool} {f : Nat → Nat} {offsets : List Nat}
    (h : ∀ o ∈ offsets, deeper' (f o) = deeper o) (depth : Nat) :
    (walk deeper' depth (offsets.map f)).1 = (walk deeper depth offsets).1.map f := by
  induction offsets generalizing depth with
  | nil => rfl
  | cons o rest ih =>
    rw [List.map_cons, walk_cons, walk_cons, h o List.mem_cons_self]
    generalize (if deeper o then depth + 1 else depth - 1) = depth'
    by_cases hzero : depth' = 0
    · rw [if_pos hzero, if_pos hzero]
      rfl
    · rw [if_neg hzero, if_neg hzero]
      exact ih (fun p hp => h p (List.mem_cons_of_mem o hp)) depth'

/-- A map of the offsets below `n` that keeps their order. An offset is live where it is mapped to
if it is live itself, and nothing is live between two neighbours. -/
structure Carries (live live' : Nat → Bool) (f : Nat → Nat) (n : Nat) : Prop where
  strictMono : StrictMono f
  live_eq : ∀ o < n, live' (f o) = live o
  skipped : ∀ o < n, ∀ p, f o < p → p < f (o + 1) → live' p = false

namespace Carries

variable {live live' : Nat → Bool} {f : Nat → Nat} {n : Nat} (h : Carries live live' f n)
include h

theorem liveBetween_behind {o high : Nat} (ho : o < n) (hhigh : f (o + 1) ≤ high) :
    liveBetween live' (f o + 1) high = liveBetween live' (f (o + 1)) high := by
  have hstep : f o + 1 ≤ f (o + 1) := h.strictMono (Nat.lt_succ_self o)
  rw [liveBetween_append hstep hhigh, liveBetween_eq_nil (h.skipped o ho), List.nil_append]

theorem liveBetween_one {o : Nat} (ho : o < n) :
    liveBetween live' (f o) (f (o + 1)) = (liveBetween live o (o + 1)).map f := by
  have hstep : f o < f (o + 1) := h.strictMono (Nat.lt_succ_self o)
  have hnil : liveBetween live' (f o + 1) (f (o + 1)) = [] := liveBetween_eq_nil (h.skipped o ho)
  have hlive := h.live_eq o ho
  rw [liveBetween_append (Nat.le_succ (f o)) hstep, hnil, List.append_nil]
  cases ho : live o with
  | true => rw [liveBetween_single ho, liveBetween_single (hlive.trans ho), List.map_singleton]
  | false => simp [liveBetween, hlive, ho]

/-- The live offsets of a stretch are mapped to those of the stretch that it is mapped to. -/
theorem liveBetween_map {low high : Nat} (hle : low ≤ high) (hhigh : high ≤ n) :
    liveBetween live' (f low) (f high) = (liveBetween live low high).map f := by
  induction high, hle using Nat.le_induction with
  | base => simp [liveBetween]
  | succ high hle ih =>
    rw [liveBetween_append (h.strictMono.monotone hle) (h.strictMono.monotone (Nat.le_succ high)),
      liveBetween_append hle (Nat.le_succ high), List.map_append, ih (by omega),
      h.liveBetween_one (by omega)]

variable {deeper deeper' : Nat → Bool} (hdeeper : ∀ o, live o = true → deeper' (f o) = deeper o)
include hdeeper

/-- A search forward from behind an offset ends alike. -/
theorem walk_forward {o : Nat} (ho : o < n) (depth : Nat) :
    (walk deeper' depth (liveBetween live' (f o + 1) (f n))).1 =
      (walk deeper depth (liveBetween live (o + 1) n)).1.map f := by
  rw [h.liveBetween_behind ho (h.strictMono.monotone ho), h.liveBetween_map ho (Nat.le_refl n)]
  exact walk_map (fun p hp => hdeeper p (mem_liveBetween.mp hp).2.2) depth

/-- So does a search backward. -/
theorem walk_backward (hzero : f 0 = 0) {o : Nat} (ho : o ≤ n) (depth : Nat) :
    (walk deeper' depth (liveBetween live' 0 (f o)).reverse).1 =
      (walk deeper depth (liveBetween live 0 o).reverse).1.map f := by
  have hlive := h.liveBetween_map (Nat.zero_le o) ho
  rw [hzero] at hlive
  rw [hlive, ← List.map_reverse]
  exact walk_map (fun p hp => hdeeper p (mem_liveBetween.mp (List.mem_reverse.mp hp)).2.2) depth

end Carries

section

variable {ctx : Context} (hcoherent : ctx.Coherent) (hfaithful : ctx.Faithful) (pair : CharPair)
  (cur : Cursor)
include hcoherent hfaithful

/-- The closing peer is where the walk behind the start ends. -/
theorem closingPeer_eq_walk {start : Nat} (hstart : start < ctx.document.length) :
    ∃ cur', closingPeer start pair ctx cur = .ok ((walk (ctx.nests pair pair.opening) 1
      (liveBetween (ctx.passes fun c => pair.chars.contains c) (start + 1) ctx.document.length)).1,
      cur') := by
  have hgate := gates_gate ctx (.among pair.chars)
  rw [closingPeer, closingPeerWith_eq hfaithful hstart, ← closingFrom_eq
    (tracks_gate rfl hcoherent hfaithful) hfaithful pair (Nat.le_refl _) 1
    (cur.moveTo (start + 1 : Nat))
    (.gate (.among pair.chars)) (start + 1) rfl hgate]
  exact ⟨_, rfl⟩

/-- The opening peer is where the walk back from the end ends. -/
theorem openingPeer_eq_walk {finish : Nat} (hfinish : finish ≤ ctx.document.length) :
    ∃ cur', openingPeer finish pair ctx cur = .ok ((walk (ctx.nests pair pair.closing) 1
      (liveBetween (ctx.passes fun c => pair.chars.contains c) 0 finish).reverse).1, cur') := by
  have hgate := gates_gate ctx (.among pair.chars)
  rw [openingPeer_eq hfaithful, Nat.min_eq_left hfinish, ← openingFrom_eq
    (retraces_gate rfl hcoherent hfaithful) hfaithful pair 1 (cur.moveTo ((finish : Int) - 1))
    (.gate (.among pair.chars)) hgate finish rfl hfinish]
  exact ⟨_, rfl⟩

end

/-- What a buffer is scanned with: the map that the rules of a language make of it, and a filter. -/
def Context.ofRules (e : Engine) (lang : Language) (filter : Filter) (b : Buffer) : Context :=
  ⟨b.document, (e.mapOf lang b).classifier, filter⟩

section

variable (e : Engine) (lang : Language) (filter : Filter)

theorem Context.coherent_ofRules (b : Buffer) : (Context.ofRules e lang filter b).Coherent :=
  Classifier.coherent_map _ _ _ b.document

@[simp] theorem Context.text_ofRules (name : String) (text : List Char) :
    (Context.ofRules e lang filter (.ofText name text)).text = text :=
  (Buffer.text_document _).trans (Buffer.text_ofText name text)

@[simp] theorem Context.length_ofRules (name : String) (text : List Char) :
    (Context.ofRules e lang filter (.ofText name text)).document.length = text.length := by
  change (Buffer.ofText name text).length = text.length
  rw [← Buffer.length_text, Buffer.text_ofText]

theorem Context.faithful_ofRules (name : String) {text : List Char}
    (h : text.length ≤ lastPosition) :
    (Context.ofRules e lang filter (.ofText name text)).Faithful := by
  refine Context.faithful_document ?_ _ filter
  rwa [← Buffer.length_text, Buffer.text_ofText]

variable {text : List Char} (hcr : '\r' ∉ text) (name name' : String)
include hcr

theorem accepts_crlfText {o : Nat} (ho : o < text.length) :
    (Context.ofRules e lang filter (.ofText name' (crlfText text))).accepts (crlfOffset text o) =
      (Context.ofRules e lang filter (.ofText name text)).accepts o := by
  obtain ⟨kind, hkind, hkind'⟩ := e.kindAt_crlfText lang hcr name name' ho
  simp only [Context.accepts, Context.kind?, Context.ofRules, hkind, hkind']

/-- Characters that pass a test do so in both texts, if line breaks do not pass it. -/
theorem carries_crlfText {test : Char → Bool} (htest : test '\n' = false)
    (htest' : test '\r' = false) :
    Carries ((Context.ofRules e lang filter (.ofText name text)).passes test)
      ((Context.ofRules e lang filter (.ofText name' (crlfText text))).passes test)
      (crlfOffset text) text.length where
  strictMono := crlfOffset_strictMono text
  live_eq o ho := by
    have hc := List.getElem?_eq_getElem ho
    rw [Context.passes, Context.passes, accepts_crlfText e lang filter hcr name name' ho,
      Context.text_ofRules, Context.text_ofRules, hc]
    by_cases hlf : text[o] = '\n'
    · rw [hlf] at hc
      have hc' : (crlfText text)[crlfOffset text o]? = some '\r' :=
        getElem?_crlfText hc (i := 0) (by decide)
      rw [hc', hlf, Option.any_some, Option.any_some, htest, htest']
    · rw [getElem?_crlfText_of_ne hc hlf]
  skipped o ho p hp hp' := by
    have hc := List.getElem?_eq_getElem ho
    rw [crlfOffset_succ hc] at hp'
    by_cases hlf : text[o] = '\n'
    · rw [hlf] at hc hp'
      have hp : p = crlfOffset text o + 1 := by
        change p < crlfOffset text o + 2 at hp'
        omega
      have hc' : (crlfText text)[p]? = some '\n' := by
        rw [hp, getElem?_crlfText hc (by decide)]
        rfl
      rw [Context.passes, Context.text_ofRules, hc', Option.any_some, htest, Bool.and_false]
    · rw [crlfChar_of_ne hlf, List.length_singleton] at hp'
      omega

omit hcr in
/-- A character of a pair nests in both texts or in none. -/
theorem nests_crlfText {pair : CharPair} (hpair : '\n' ∉ pair.chars) (deeper : Char) {o : Nat}
    (ho : (Context.ofRules e lang filter (.ofText name text)).passes
      (fun c => pair.chars.contains c) o = true) :
    (Context.ofRules e lang filter (.ofText name' (crlfText text))).nests pair deeper
        (crlfOffset text o) =
      (Context.ofRules e lang filter (.ofText name text)).nests pair deeper o := by
  rw [Context.passes, Bool.and_eq_true, Option.any_eq_true] at ho
  obtain ⟨-, c, hc, hmem⟩ := ho
  rw [Context.text_ofRules] at hc
  have hne : c ≠ '\n' := by
    rintro rfl
    exact hpair (List.contains_iff_mem.mp hmem)
  rw [Context.nests, Context.nests, Context.text_ofRules, Context.text_ofRules,
    getElem?_crlfText_of_ne hc hne, hc]

end

/-- A text and the same text with CR LF for LF have the same kinds and the same peers, each scanned
with the map of its own, where an offset is moved by the number of LFs before it, if no character of
the pair is part of a line break. -/
theorem line_breaks_are_interchangeable (e : Engine) (lang : Language) (filter : Filter)
    (pair : CharPair) (hpair : '\r' ∉ pair.chars ∧ '\n' ∉ pair.chars) (name name' : String)
    {text : List Char} (hcr : '\r' ∉ text) (hlength : (crlfText text).length ≤ lastPosition) :
    let b := Buffer.ofText name text
    let b' := Buffer.ofText name' (crlfText text)
    ∃ m m', e.partition lang b.document = .ok m ∧ e.partition lang b'.document = .ok m' ∧
      let ctx : Context := ⟨b.document, m.classifier, filter⟩
      let ctx' : Context := ⟨b'.document, m'.classifier, filter⟩
      (∀ o < text.length, ∃ kind, m.classifier.kindAt b.document o = .ok kind ∧
        m'.classifier.kindAt b'.document (crlfOffset text o) = .ok kind) ∧
      (∀ o < text.length, ∀ cur cur', ∃ peer next next',
        closingPeer o pair ctx cur = .ok (peer, next) ∧
        closingPeer (crlfOffset text o) pair ctx' cur' =
          .ok (peer.map (crlfOffset text), next')) ∧
      ∀ o ≤ text.length, ∀ cur cur', ∃ peer next next',
        openingPeer o pair ctx cur = .ok (peer, next) ∧
        openingPeer (crlfOffset text o) pair ctx' cur' =
          .ok (peer.map (crlfOffset text), next') := by
  intro b b'
  refine ⟨_, _, e.partition_document lang b, e.partition_document lang b', ?_⟩
  let ctx := Context.ofRules e lang filter b
  let ctx' := Context.ofRules e lang filter b'
  let test := fun c => pair.chars.contains c
  have hcarries : Carries (ctx.passes test) (ctx'.passes test) (crlfOffset text) text.length :=
    carries_crlfText e lang filter hcr name name' (by simpa [test] using hpair.2)
      (by simpa [test] using hpair.1)
  have hnests : ∀ deeper o, ctx.passes test o = true →
      ctx'.nests pair deeper (crlfOffset text o) = ctx.nests pair deeper o :=
    fun deeper o => nests_crlfText e lang filter name name' hpair.2 deeper
  have hlt : text.length ≤ lastPosition := by
    rw [length_crlfText] at hlength
    omega
  have hctx : ctx.document.length = text.length := Context.length_ofRules e lang filter name text
  have hctx' : ctx'.document.length = crlfOffset text text.length := by
    rw [crlfOffset_length]
    exact Context.length_ofRules e lang filter name' (crlfText text)
  have hfaithful : ctx.Faithful := Context.faithful_ofRules e lang filter name hlt
  have hfaithful' : ctx'.Faithful := Context.faithful_ofRules e lang filter name' hlength
  have hcoherent : ctx.Coherent := Context.coherent_ofRules e lang filter b
  have hcoherent' : ctx'.Coherent := Context.coherent_ofRules e lang filter b'
  refine ⟨fun o ho => e.kindAt_crlfText lang hcr name name' ho, fun o ho cur cur' => ?_,
    fun o ho cur cur' => ?_⟩
  · obtain ⟨next, hpeer⟩ := closingPeer_eq_walk hcoherent hfaithful pair cur (hctx ▸ ho)
    obtain ⟨next', hpeer'⟩ := closingPeer_eq_walk hcoherent' hfaithful' pair cur'
      (hctx' ▸ hcarries.strictMono ho)
    rw [hctx', hcarries.walk_forward (hnests pair.opening) ho] at hpeer'
    rw [hctx] at hpeer
    exact ⟨_, next, next', hpeer, hpeer'⟩
  · obtain ⟨next, hpeer⟩ := openingPeer_eq_walk hcoherent hfaithful pair cur (hctx ▸ ho)
    obtain ⟨next', hpeer'⟩ := openingPeer_eq_walk hcoherent' hfaithful' pair cur'
      (hctx' ▸ hcarries.strictMono.monotone ho)
    rw [hcarries.walk_backward (hnests pair.closing) (crlfOffset_zero text) ho] at hpeer'
    exact ⟨_, next, next', hpeer, hpeer'⟩

/-- The parenthesis inside the string does not count, and the peer is moved by the two breaks before
it. -/
theorem line_breaks_are_interchangeable_quoted :
    let text := "('a\n)'\n)".toList
    let b := Buffer.scratch text
    let b' := Buffer.scratch (crlfText text)
    crlfText text = "('a\r\n)'\r\n)".toList ∧
      ∃ m m', Engine.own.partition Language.Builtin.r b.document = .ok m ∧
        Engine.own.partition Language.Builtin.r b'.document = .ok m' ∧
        (∃ next, closingPeer 0 .parentheses ⟨b.document, m.classifier, .defaultOnly⟩ {} =
          .ok (some 7, next)) ∧
        ∃ next, closingPeer 0 .parentheses ⟨b'.document, m'.classifier, .defaultOnly⟩ {} =
          .ok (some 9, next) := by
  intro text b b'
  obtain ⟨m, m', hm, hm', -, hclosing, -⟩ := line_breaks_are_interchangeable Engine.own
    Language.Builtin.r .defaultOnly .parentheses (by decide) "*scratch*" "*scratch*"
    (show '\r' ∉ text by decide) (by decide)
  obtain ⟨peer, next, next', hpeer, hpeer'⟩ := hclosing 0 (by decide) {} {}
  have hseven : peer = some 7 := by
    let ctx := Context.ofRules Engine.own Language.Builtin.r .defaultOnly b
    obtain rfl : Engine.own.mapOf Language.Builtin.r b = m :=
      Except.ok.inj ((Engine.own.partition_document Language.Builtin.r b).symm.trans hm)
    have hcoherent : ctx.Coherent := Context.coherent_ofRules _ _ _ _
    have hfaithful : ctx.Faithful := Context.faithful_ofRules _ _ _ _ (by decide)
    have hstart : 0 < ctx.document.length := by decide
    obtain ⟨cur, hwalk⟩ := closingPeer_eq_walk hcoherent hfaithful .parentheses {} hstart
    rw [(Prod.mk.inj (Except.ok.inj (hpeer.symm.trans hwalk))).1]
    decide +kernel
  subst hseven
  exact ⟨by decide, m, m', hm, hm', ⟨next, hpeer⟩, next', hpeer'⟩

end Scan

end PartitionScan
