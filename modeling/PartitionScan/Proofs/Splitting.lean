import PartitionScan.Buffer

/-!
# Splitting is local

A text can be split piece by piece wherever one piece ends in a complete line break: an LF, or a CR
with no LF behind it. The lines of a text are thus found again from the text of any run of them.
-/
namespace PartitionScan.Line

def IsPlain (c : Char) : Prop := c ≠ '\n' ∧ c ≠ '\r'

structure Ended (l : Line) : Prop where
  content : ∀ c ∈ l.content, IsPlain c
  delimiter : l.delimiter = ['\n'] ∨ l.delimiter = ['\r', '\n'] ∨ l.delimiter = ['\r']

/-- Whether `s` is empty or ends in a line break that `t` does not continue. -/
def CleanBreak (s t : List Char) : Prop :=
  ∀ c, s.getLast? = some c → c = '\n' ∨ c = '\r' ∧ t.head? ≠ some '\n'

theorem splitAll_plain {c : Char} (h : IsPlain c) (rest : List Char) :
    splitAll (c :: rest) = pushFirst c (splitAll rest) := by
  rw [splitAll]
  · exact h.1
  · intro _ hc _
    exact h.2 hc
  · exact h.2

theorem splitAll_cr {rest : List Char} (h : rest.head? ≠ some '\n') :
    splitAll ('\r' :: rest) = { delimiter := ['\r'] } :: splitAll rest := by
  rw [splitAll]
  rintro tail rfl
  exact h rfl

theorem Ended.push {l : Line} (h : l.Ended) {c : Char} (hc : IsPlain c) : (l.push c).Ended := by
  constructor
  · intro d hd
    rcases List.mem_cons.mp hd with rfl | hd
    · exact hc
    · exact h.content d hd
  · exact h.delimiter

theorem Ended.delimiter_ne_nil {l : Line} (h : l.Ended) : l.delimiter ≠ [] := by
  rcases h.delimiter with hd | hd | hd <;> simp [hd]

theorem Ended.length_pos {l : Line} (h : l.Ended) : 0 < l.length := by
  have := List.length_pos_iff.mpr h.delimiter_ne_nil
  simp only [length]
  omega

/-- An ended line is the first line of every text that starts with it and leaves its break whole. -/
theorem splitAll_ended {l : Line} (h : l.Ended) {t : List Char}
    (hcr : l.delimiter = ['\r'] → t.head? ≠ some '\n') :
    splitAll (l.chars ++ t) = l :: splitAll t := by
  obtain ⟨content, delimiter⟩ := l
  induction content with
  | nil =>
    rcases h.delimiter with hd | hd | hd <;> simp only at hd hcr <;> subst hd
    · rfl
    · rfl
    · exact splitAll_cr (hcr rfl)
  | cons c content ih =>
    have hc : IsPlain c := h.content c List.mem_cons_self
    have hl : Ended ⟨content, delimiter⟩ :=
      ⟨fun d hd => h.content d (List.mem_cons_of_mem c hd), h.delimiter⟩
    change splitAll (c :: (chars ⟨content, delimiter⟩ ++ t)) = _
    rw [splitAll_plain hc, ih hl hcr]
    rfl

/-- The first of several lines of a text, and what is left when it is taken off. -/
theorem splitAll_eq_cons {text : List Char} {l : Line} {rest : List Line}
    (h : splitAll text = l :: rest) (hrest : rest ≠ []) :
    l.Ended ∧ (l.delimiter = ['\r'] → (Buffer.joined rest).head? ≠ some '\n') ∧
      splitAll (Buffer.joined rest) = rest := by
  fun_induction splitAll text generalizing l rest with
  | case1 =>
    obtain ⟨-, rfl⟩ := List.cons.inj h
    exact absurd rfl hrest
  | case2 tail ih =>
    obtain ⟨rfl, rfl⟩ := List.cons.inj h
    exact ⟨⟨by simp, .inl rfl⟩, by simp, by rw [Buffer.joined, flatMap_chars_splitAll]⟩
  | case3 tail ih =>
    obtain ⟨rfl, rfl⟩ := List.cons.inj h
    exact ⟨⟨by simp, .inr (.inl rfl)⟩, by simp, by rw [Buffer.joined, flatMap_chars_splitAll]⟩
  | case4 tail hlf ih =>
    obtain ⟨rfl, rfl⟩ := List.cons.inj h
    rw [Buffer.joined, flatMap_chars_splitAll]
    refine ⟨⟨by simp, .inr (.inr rfl)⟩, fun _ hhead => ?_, rfl⟩
    obtain ⟨rest, rfl⟩ := List.head?_eq_some_iff.mp hhead
    exact hlf rest rfl
  | case5 c tail hlf hcrlf hcr ih =>
    cases hs : splitAll tail with
    | nil => exact absurd hs (splitAll_ne_nil tail)
    | cons m lines =>
      rw [hs] at h ih
      obtain ⟨rfl, rfl⟩ := List.cons.inj h
      obtain ⟨hm, hbreak, hlines⟩ := ih rfl hrest
      exact ⟨hm.push ⟨hlf, hcr⟩, hbreak, hlines⟩

theorem CleanBreak.of_cons {c : Char} {s t : List Char} (h : CleanBreak (c :: s) t) :
    CleanBreak s t := by
  intro d hd
  apply h d
  rw [List.getLast?_cons, hd]
  rfl

/-- Whether a break is clean depends on the two characters at the seam only. -/
theorem CleanBreak.congr {s s' t t' : List Char} (h : CleanBreak s t)
    (hs : s'.getLast? = s.getLast?) (ht : t'.head? = t.head?) : CleanBreak s' t' := by
  intro c hc
  rw [ht]
  exact h c (hs ▸ hc)

/-- Behind a clean break the text is split as if it stood alone; the lines before it are those of
the text that ends there, less the empty one at its end. -/
theorem splitAll_append {s t : List Char} (h : CleanBreak s t) :
    ∃ lines, splitAll s = lines ++ [({} : Line)] ∧ splitAll (s ++ t) = lines ++ splitAll t ∧
      (s ≠ [] → lines ≠ []) := by
  fun_induction splitAll s with
  | case1 => exact ⟨[], rfl, rfl, fun hs => absurd rfl hs⟩
  | case2 rest ih =>
    obtain ⟨lines, hs, ht, -⟩ := ih h.of_cons
    refine ⟨{ delimiter := ['\n'] } :: lines, by rw [hs]; rfl, ?_, by simp⟩
    rw [List.cons_append, splitAll, ht]
    rfl
  | case3 rest ih =>
    obtain ⟨lines, hs, ht, -⟩ := ih h.of_cons.of_cons
    refine ⟨{ delimiter := ['\r', '\n'] } :: lines, by rw [hs]; rfl, ?_, by simp⟩
    rw [List.cons_append, List.cons_append, splitAll, ht]
    rfl
  | case4 rest hlf ih =>
    obtain ⟨lines, hs, ht, -⟩ := ih h.of_cons
    refine ⟨{ delimiter := ['\r'] } :: lines, by rw [hs]; rfl, ?_, by simp⟩
    have hhead : (rest ++ t).head? ≠ some '\n' := by
      cases rest with
      | nil => simpa using h '\r' rfl
      | cons d rest =>
        rintro ⟨⟩
        exact hlf rest rfl
    rw [List.cons_append, splitAll_cr hhead, ht]
    rfl
  | case5 c rest hlf hcrlf hcr ih =>
    obtain ⟨lines, hs, ht, hne⟩ := ih h.of_cons
    have hrest : rest ≠ [] := by
      rintro rfl
      rcases h c rfl with rfl | ⟨rfl, -⟩
      · exact hlf rfl
      · exact hcr rfl
    obtain ⟨l, lines, rfl⟩ := List.exists_cons_of_ne_nil (hne hrest)
    refine ⟨l.push c :: lines, by rw [hs]; rfl, ?_, by simp⟩
    rw [List.cons_append, splitAll_plain ⟨hlf, hcr⟩, ht]
    rfl

/-- Every cut between two lines of a text is a clean break. -/
theorem splitAll_eq_append {text : List Char} {front back : List Line}
    (h : splitAll text = front ++ back) (hback : back ≠ []) :
    CleanBreak (Buffer.joined front) (Buffer.joined back) ∧
      splitAll (Buffer.joined front) = front ++ [({} : Line)] ∧
      splitAll (Buffer.joined back) = back := by
  induction front generalizing text with
  | nil =>
    refine ⟨fun c hc => by simp [Buffer.joined] at hc, rfl, ?_⟩
    rw [List.nil_append] at h
    rw [← h, Buffer.joined, flatMap_chars_splitAll]
  | cons l front ih =>
    have hne : front ++ back ≠ [] := List.append_ne_nil_of_right_ne_nil front hback
    rw [List.cons_append] at h
    obtain ⟨hl, hbreak, hrest⟩ := splitAll_eq_cons h hne
    obtain ⟨hclean, hfront, hsplit⟩ := ih hrest
    have hjoined : Buffer.joined (front ++ back) = Buffer.joined front ++ Buffer.joined back := by
      simp [Buffer.joined]
    rw [hjoined] at hbreak
    refine ⟨?_, ?_, hsplit⟩
    · intro c hc
      have hlast : (l.chars ++ Buffer.joined front).getLast? = some c := hc
      rw [List.getLast?_append] at hlast
      cases hj : (Buffer.joined front).getLast? with
      | none =>
        have hnil : Buffer.joined front = [] := List.getLast?_eq_none_iff.mp hj
        rw [hnil, List.nil_append] at hbreak
        rw [hj, Option.none_or, chars, List.getLast?_append] at hlast
        rcases hl.delimiter with hd | hd | hd <;> rw [hd] at hlast <;> cases hlast
        · exact .inl rfl
        · exact .inl rfl
        · exact .inr ⟨rfl, hbreak hd⟩
      | some d =>
        rw [hj, Option.some_or] at hlast
        exact hclean c (hj.trans hlast)
    · change splitAll (l.chars ++ Buffer.joined front) = _
      rw [splitAll_ended hl, hfront]
      · rfl
      · intro hd hhead
        apply hbreak hd
        rw [List.head?_append, hhead]
        rfl

/-- Every line but the last is ended. -/
theorem ended_of_splitAll {text : List Char} {front back : List Line} {l : Line}
    (h : splitAll text = front ++ l :: back) (hback : back ≠ []) : l.Ended := by
  have hsplit := (splitAll_eq_append h (List.cons_ne_nil l back)).2.2
  exact (splitAll_eq_cons hsplit hback).1

theorem ended_getElem {text : List Char} {lines : List Line} (h : splitAll text = lines) {k : Nat}
    (hk : k + 1 < lines.length) : lines[k].Ended := by
  have hsplit : splitAll text = lines.take k ++ lines[k] :: lines.drop (k + 1) := by
    rw [← List.drop_eq_getElem_cons, List.take_append_drop, h]
  exact ended_of_splitAll hsplit (by simpa using hk)

/-- No line holds a part of a line break in its content. -/
theorem isPlain_of_mem_content {text : List Char} {l : Line} (hl : l ∈ splitAll text) :
    ∀ c ∈ l.content, IsPlain c := by
  fun_induction splitAll text generalizing l with
  | case1 =>
    obtain rfl := List.mem_singleton.mp hl
    simp
  | case2 rest ih =>
    rcases List.mem_cons.mp hl with rfl | hl
    · simp
    · exact ih hl
  | case3 rest ih =>
    rcases List.mem_cons.mp hl with rfl | hl
    · simp
    · exact ih hl
  | case4 rest _ ih =>
    rcases List.mem_cons.mp hl with rfl | hl
    · simp
    · exact ih hl
  | case5 c rest hlf hcrlf hcr ih =>
    cases hs : splitAll rest with
    | nil => exact absurd hs (splitAll_ne_nil rest)
    | cons m lines =>
      rw [hs] at hl ih
      rcases List.mem_cons.mp hl with rfl | hl
      · intro d hd
        rcases List.mem_cons.mp hd with rfl | hd
        · exact ⟨hlf, hcr⟩
        · exact ih List.mem_cons_self d hd
      · exact ih (List.mem_cons_of_mem m hl)

/-- The last line has no delimiter. -/
theorem delimiter_of_getLast? {text : List Char} {l : Line}
    (h : (splitAll text).getLast? = some l) : l.delimiter = [] := by
  fun_induction splitAll text generalizing l with
  | case1 =>
    obtain rfl := Option.some.inj h
    rfl
  | case2 rest ih => exact ih (by rwa [List.getLast?_cons_of_ne_nil (splitAll_ne_nil rest)] at h)
  | case3 rest ih => exact ih (by rwa [List.getLast?_cons_of_ne_nil (splitAll_ne_nil rest)] at h)
  | case4 rest _ ih => exact ih (by rwa [List.getLast?_cons_of_ne_nil (splitAll_ne_nil rest)] at h)
  | case5 c rest _ _ _ ih =>
    cases hs : splitAll rest with
    | nil => exact absurd hs (splitAll_ne_nil rest)
    | cons m lines =>
      rw [hs] at h ih
      cases lines with
      | nil =>
        obtain rfl := Option.some.inj h
        exact ih (l := m) rfl
      | cons m' lines => exact ih h

end PartitionScan.Line
