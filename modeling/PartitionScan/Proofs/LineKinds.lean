import PartitionScan.Proofs.Partitioning

/-!
# Kinds of lines, line by line

The kinds of a document's characters are those of its lines in order, each line entered in the state
that the ones before leave. So the kinds of complete lines do not depend on what follows them, not
even on whether an LF follows that their last CR takes into its break, and an edit leaves the kinds
of all earlier lines as they are.
-/
namespace PartitionScan.Engine

variable (e : Engine) (lang : Language)

@[simp] theorem stateAfter_nil (state : Nat) : e.stateAfter lang state [] = state := rfl

@[simp] theorem stateAfter_cons (state : Nat) (l : Line) (rest : List Line) :
    e.stateAfter lang state (l :: rest) =
      e.stateAfter lang (e.placeSpans lang l.content state).state rest := rfl

@[simp] theorem linesKinds_nil (state : Nat) : e.linesKinds lang state [] = [] := rfl

@[simp] theorem linesKinds_cons (state : Nat) (l : Line) (rest : List Line) :
    e.linesKinds lang state (l :: rest) = e.lineKinds lang state l ++
      e.linesKinds lang (e.placeSpans lang l.content state).state rest := rfl

theorem linesKinds_append (state : Nat) (front back : List Line) :
    e.linesKinds lang state (front ++ back) =
      e.linesKinds lang state front ++ e.linesKinds lang (e.stateAfter lang state front) back := by
  induction front generalizing state with
  | nil => rfl
  | cons l front ih => simp [ih]

@[simp] theorem length_lineKinds (state : Nat) (l : Line) :
    (e.lineKinds lang state l).length = l.length := by
  simp [lineKinds, LineSpans.kindsFrom, Line.length]

@[simp] theorem length_linesKinds (state : Nat) (lines : List Line) :
    (e.linesKinds lang state lines).length = Buffer.extent lines := by
  induction lines generalizing state with
  | nil => rfl
  | cons l rest ih => simp [ih]

/-- The kind at an offset is the one in the list of all kinds. -/
theorem kindAt_eq_ok_iff {b : Buffer} {o : Nat} {kind : String} (ho : o < b.length) :
    (e.mapOf lang b).classifier.kindAt b.document o = .ok kind ↔
      (e.linesKinds lang 0 b.lines)[o]? = some kind := by
  have hkinds := congrArg (·[o]?) (e.map_kindAt_partition lang b)
  simp only [List.getElem?_map, List.getElem?_range ho, Option.map_some] at hkinds
  rw [Eq.comm, Option.map_eq_some_iff] at hkinds
  obtain ⟨found, hfound, hok⟩ := hkinds
  rw [← hok, hfound]
  simp

/-- Kinds known of the first characters. -/
theorem kindAt_of_front {b : Buffer} {kinds : List String}
    (h : kinds <+: e.linesKinds lang 0 b.lines) {o : Nat} {kind : String}
    (ho : kinds[o]? = some kind) :
    (e.mapOf lang b).classifier.kindAt b.document o = .ok kind := by
  obtain ⟨rest, hrest⟩ := h
  obtain ⟨hlt, -⟩ := List.getElem?_eq_some_iff.mp ho
  have hlength := congrArg List.length hrest
  rw [List.length_append, length_linesKinds, ← Buffer.length_eq_extent] at hlength
  rw [e.kindAt_eq_ok_iff lang (show o < b.length by omega), ← hrest,
    List.getElem?_append_left hlt, ho]

/-- A complete line has the kinds that it has by itself, whatever text follows. An LF behind its CR
makes its break one longer, which does not change the state that it ends in. -/
theorem lineKinds_front {l : Line} (hl : l.Ended) (text : List Char) (state : Nat) :
    e.lineKinds lang state l <+: e.linesKinds lang state (Line.splitAll (l.chars ++ text)) := by
  by_cases hmerge : l.delimiter = ['\r'] ∧ text.head? = some '\n'
  · obtain ⟨hcr, hlf⟩ := hmerge
    obtain ⟨rest, rfl⟩ := List.head?_eq_some_iff.mp hlf
    let merged : Line := { l with delimiter := ['\r', '\n'] }
    have hmerged : merged.Ended := ⟨hl.content, .inr (.inl rfl)⟩
    have hchars : l.chars ++ '\n' :: rest = merged.chars ++ rest := by
      simp [merged, Line.chars, hcr]
    have hkinds : e.lineKinds lang state l <+: e.lineKinds lang state merged := by
      rw [lineKinds, lineKinds, hcr]
      exact (List.prefix_append_right_inj _).mpr (List.prefix_append _ [_])
    rw [hchars, Line.splitAll_ended hmerged (by simp [merged]), linesKinds_cons]
    exact hkinds.trans (List.prefix_append _ _)
  · rw [Line.splitAll_ended hl (fun hcr hlf => hmerge ⟨hcr, hlf⟩), linesKinds_cons]
    exact List.prefix_append _ _

/-- So have the complete lines of a text before any other text. -/
theorem linesKinds_front {text : List Char} {front back : List Line}
    (h : Line.splitAll text = front ++ back) (hback : back ≠ []) (other : List Char) (state : Nat) :
    e.linesKinds lang state front <+:
      e.linesKinds lang state (Line.splitAll (Buffer.joined front ++ other)) := by
  rcases List.eq_nil_or_concat front with rfl | ⟨init, l, rfl⟩
  · exact List.nil_prefix
  · rw [List.concat_eq_append, List.append_assoc, List.singleton_append] at h
    have hl : l.Ended := Line.ended_of_splitAll h hback
    obtain ⟨hseam, hinit, -⟩ := Line.splitAll_eq_append h (List.cons_ne_nil l back)
    have hchars : l.chars ≠ [] := by
      have := hl.length_pos
      rw [← Line.length_chars] at this
      exact List.ne_nil_of_length_pos this
    -- The seam before the last line stays clean, for that line keeps its first character.
    have hclean : Line.CleanBreak (Buffer.joined init) (l.chars ++ other) := by
      refine hseam.congr rfl ?_
      change (l.chars ++ other).head? = (l.chars ++ Buffer.joined back).head?
      rw [List.head?_append_of_ne_nil _ hchars, List.head?_append_of_ne_nil _ hchars]
    obtain ⟨lines, hlines, hsplit, -⟩ := Line.splitAll_append hclean
    have hfirst : lines = init := List.append_cancel_right (hlines.symm.trans hinit)
    have hjoined : Buffer.joined (init.concat l) ++ other =
        Buffer.joined init ++ (l.chars ++ other) := by
      simp [Buffer.joined]
    rw [hjoined, hsplit, hfirst, List.concat_eq_append, linesKinds_append, linesKinds_append,
      linesKinds_cons, linesKinds_nil, List.append_nil]
    exact (List.prefix_append_right_inj _).mpr (e.lineKinds_front lang hl other _)

/-- An edit leaves the kinds of all characters before the line that it begins on as they are. -/
theorem replace_keeps_earlier_kinds {b b' : Buffer} (hb : b.Made) {offset length : Nat}
    {new : List Char} (h : b.run (Buffer.replace offset length new) = (.ok (), b')) :
    ∃ line start, b.lineOfOffset offset = .ok line ∧ b.lineOffset line = .ok start ∧
      ∃ m m', e.partition lang b.document = .ok m ∧ e.partition lang b'.document = .ok m' ∧
        ∀ x < start, ∃ kind, m.classifier.kindAt b.document x = .ok kind ∧
          m'.classifier.kindAt b'.document x = .ok kind := by
  have hcanonical := hb.canonical
  by_cases hfits : offset + length < offsetLimit ∧ offset + length ≤ b.length
  · rw [Buffer.run_replace hcanonical hfits.1 hfits.2] at h
    obtain rfl := (Prod.mk.inj h).2
    have hne := hcanonical.lines_ne_nil
    obtain ⟨hline, hstart, -⟩ := Buffer.lineIndex_bounds b.lines offset hne
    refine ⟨_, _, Buffer.lineOfOffset_eq (by omega), Buffer.lineOffset_eq hline, _, _,
      e.partition_document lang _, e.partition_document lang _, fun x hx => ?_⟩
    generalize Buffer.lineIndex b.lines offset = line at *
    have hcut : Line.splitAll b.text = b.lines.take line ++ b.lines.drop line := by
      rw [List.take_append_drop]
      exact hcanonical.symm
    have hback : b.lines.drop line ≠ [] := by
      rw [Ne, List.drop_eq_nil_iff]
      omega
    obtain ⟨rest, hrest⟩ := Buffer.exists_splice_eq_append hstart hfits.2 new
    have hx' : x < (e.linesKinds lang 0 (b.lines.take line)).length := by rwa [length_linesKinds]
    refine ⟨_, e.kindAt_of_front lang ?_ (List.getElem?_eq_getElem hx'),
      e.kindAt_of_front lang ?_ (List.getElem?_eq_getElem hx')⟩
    · refine ⟨e.linesKinds lang (e.stateAfter lang 0 (b.lines.take line)) (b.lines.drop line), ?_⟩
      rw [← linesKinds_append, List.take_append_drop]
    · simp only [hrest, Buffer.withLines]
      exact e.linesKinds_front lang hcut hback rest 0
  · rw [Buffer.run_replace_error hfits] at h
    cases (Prod.mk.inj h).1

/-- The LF put at the start of the second line joins the CR of the first, which stays in the string.
-/
theorem replace_keeps_earlier_kinds_merged :
    let b := Buffer.scratch "'a\r'b".toList
    let lang := Language.Builtin.r
    b.Made ∧ ∃ b' m m', b.run (Buffer.replace 3 0 ['\n']) = (.ok (), b') ∧
      b'.lines = [⟨"'a".toList, ['\r', '\n']⟩, ⟨"'b".toList, []⟩] ∧
      own.partition lang b.document = .ok m ∧ own.partition lang b'.document = .ok m' ∧
      m.classifier.kindAt b.document 2 = .ok "__r_string" ∧
      m'.classifier.kindAt b'.document 2 = .ok "__r_string" := by
  intro b lang
  have hmade : b.Made := .ofText "*scratch*" _
  obtain ⟨b', hreplace, hlines⟩ : ∃ b', b.run (Buffer.replace 3 0 ['\n']) = (.ok (), b') ∧
      b'.lines = [⟨"'a".toList, ['\r', '\n']⟩, ⟨"'b".toList, []⟩] := ⟨_, rfl, by decide⟩
  obtain ⟨line, start, hline, hstart, m, m', hm, hm', hkinds⟩ :=
    own.replace_keeps_earlier_kinds lang hmade hreplace
  have hline' : b.lineOfOffset 3 = .ok 1 := by decide
  cases hline.symm.trans hline'
  have hstart' : b.lineOffset 1 = .ok 3 := by decide
  cases hstart.symm.trans hstart'
  obtain ⟨kind, hbefore, hafter⟩ := hkinds 2 (by decide)
  have hkind : kind = "__r_string" := by
    have hstring : (own.partition lang b.document).bind (·.classifier.kindAt b.document 2) =
        .ok "__r_string" := by decide +kernel
    rw [hm] at hstring
    exact Except.ok.inj (hbefore.symm.trans hstring)
  subst hkind
  exact ⟨hmade, b', m, m', hreplace, hlines, hm, hm', hbefore, hafter⟩

end PartitionScan.Engine
