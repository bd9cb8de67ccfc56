import KeyboardLayout.Proofs.DrawnText
import Mathlib.Data.List.Basic

/-!
# Marks and line ends

A drawing travels as one text, in which its marks are folded before its lines are cut. Both ends of
that way are looked at here. Lines that are drawn come back from their text, with the indent that
they got, whatever marks they hold and wherever these stand; only a line that cannot stand in a text
is lost (`lines_mergeMarks_ofLines_iff`). For a text that was not drawn this is different. A mark
takes the place of the character before it, also of a line feed. So folding respects the lines
exactly if none but the first begins with a mark, and each line that does is joined to the one
before it (`lines_mergeMarks_iff`).

The number of lines is told from the line feeds of a text and from its last character, which folding
keeps.
-/

namespace KeyboardLayout.Text

variable {s t line : Text} {c last : Char}

/-! ## Drawn lines -/

theorem indented_eq_nil_iff {indent : Text} : indented indent line = [] ↔ line = [] := by
  cases line <;> simp [indented]

theorem mem_indented (hc : c ∈ line) (indent : Text) : c ∈ indented indent line := by
  have hne : ¬line.isEmpty = true := fun h => List.ne_nil_of_mem hc (List.isEmpty_iff.mp h)
  rw [indented, if_neg hne]
  exact List.mem_append_right indent hc

theorem getLast?_indented (indent line : Text) :
    (indented indent line).getLast? = line.getLast? := by
  unfold indented
  split
  · rename_i hempty
    rw [List.isEmpty_iff.mp hempty]
  · rename_i hempty
    exact List.getLast?_append_of_ne_nil indent fun h => hempty (List.isEmpty_iff.mpr h)

/-- **Drawn lines come back from their text**, each but an empty one behind its indent and with all
its marks, exactly if none holds a line feed, none but the last ends with a carriage return and the
last one is not empty. -/
theorem lines_mergeMarks_ofLines_iff {indent : Text} (hindent : ∀ c ∈ indent, c = ' ')
    (ls : List Text) :
    lines (mergeMarks (ofLines ls indent)) = ls.map (indented indent) ↔
      (∀ line ∈ ls, '\n' ∉ line) ∧ (∀ line ∈ ls.dropLast, line.getLast? ≠ some '\r')
        ∧ ls.getLast? ≠ some [] := by
  have hmarks : ∀ c ∈ indent, isMark c = false := fun c hc => hindent c hc ▸ not_isMark_space
  have hfeeds : (∀ line ∈ ls.map (indented indent), '\n' ∉ line) ↔ ∀ line ∈ ls, '\n' ∉ line := by
    refine List.forall_mem_map.trans (forall₂_congr fun line _ => not_congr ?_)
    refine ⟨fun hmem => ?_, fun hmem => mem_indented hmem indent⟩
    unfold indented at hmem
    split at hmem
    · cases hmem
    · exact (List.mem_append.mp hmem).resolve_left fun h => absurd (hindent _ h) (by decide)
  have hends : (∀ line ∈ (ls.map (indented indent)).dropLast, line.getLast? ≠ some '\r')
        ∧ (ls.map (indented indent)).getLast? ≠ some [] ↔
      (∀ line ∈ ls.dropLast, line.getLast? ≠ some '\r') ∧ ls.getLast? ≠ some [] := by
    rw [← List.map_dropLast, List.forall_mem_map, List.getLast?_map]
    simp only [getLast?_indented, ne_eq, Option.map_eq_some_iff, indented_eq_nil_iff,
      exists_eq_right]
  rw [mergeMarks_ofLines hmarks, ← hends, ← hfeeds]
  constructor
  · intro heq
    have hfree : ∀ line ∈ ls.map (indented indent), '\n' ∉ line :=
      fun line hline => not_mem_of_mem_lines (heq ▸ hline)
    exact ⟨hfree, (lines_unlines_iff hfree).mp heq⟩
  · rintro ⟨hfree, hrest⟩
    exact (lines_unlines_iff hfree).mpr hrest

/-- An empty line, a mark that starts a line and two marks in a row. -/
theorem lines_mergeMarks_ofLines_marks :
    (∀ c ∈ "  ".toList, c = ' ')
      ∧ lines (mergeMarks (ofLines ["\u0301a".toList, [], "b\u0300\u0301".toList] "  ".toList)) =
        ["  \u0301a".toList, [], "  b\u0300\u0301".toList] := by
  have hindent : ∀ c ∈ "  ".toList, c = ' ' := by simp
  exact ⟨hindent, (lines_mergeMarks_ofLines_iff hindent _).mpr (by decide)⟩

/-! ## Folding in parts -/

/-- The line begins with a combining mark. -/
def startsWithMark (line : Text) : Bool :=
  line.head?.any isMark

theorem mem_of_mem_mergeMarksAfter (h : c ∈ mergeMarksAfter last t) : c ∈ last :: t := by
  induction t generalizing last with
  | nil => exact h
  | cons d t ih =>
      unfold mergeMarksAfter at h
      split at h
      · exact List.mem_cons_of_mem last (ih h)
      · rcases List.mem_cons.mp h with rfl | h
        · exact List.mem_cons_self ..
        · exact List.mem_cons_of_mem last (ih h)

theorem mem_of_mem_mergeMarks (h : c ∈ mergeMarks t) : c ∈ t := by
  cases t with
  | nil => exact h
  | cons d t => exact mem_of_mem_mergeMarksAfter h

/-- Folding goes on behind a character that is no mark as if nothing stood before it. -/
theorem mergeMarksAfter_append (hc : isMark c = false) (last : Char) (s t : Text) :
    mergeMarksAfter last (s ++ c :: t) = mergeMarksAfter last s ++ mergeMarksAfter c t := by
  induction s generalizing last with
  | nil => simp [mergeMarksAfter, hc]
  | cons d s ih =>
      simp only [List.cons_append, mergeMarksAfter, ih]
      split <;> rfl

theorem mergeMarks_append (hc : isMark c = false) (s t : Text) :
    mergeMarks (s ++ c :: t) = mergeMarks s ++ mergeMarksAfter c t := by
  cases s with
  | nil => rfl
  | cons d s => exact mergeMarksAfter_append hc d s t

/-- A line feed stays where it is unless a mark follows it. -/
theorem mergeMarks_append_feed (h : startsWithMark t = false) (s : Text) :
    mergeMarks (s ++ '\n' :: t) = mergeMarks s ++ '\n' :: mergeMarks t := by
  rw [mergeMarks_append not_isMark_feed]
  cases t with
  | nil => rfl
  | cons d t =>
      have hd : isMark d = false := h
      simp [mergeMarksAfter, mergeMarks, hd]

theorem startsWithMark_unlines (line : Text) (more : List Text) :
    startsWithMark (unlines (line :: more)) = startsWithMark line := by
  cases more with
  | nil => rw [unlines_singleton]
  | cons next more =>
      rw [unlines_cons_cons]
      cases line with
      | nil => exact not_isMark_feed
      | cons c line => rfl

/-- Folding goes piece by piece if no piece but the first begins with a mark. -/
theorem mergeMarks_unlines {first : Text} {more : List Text}
    (h : ∀ line ∈ more, startsWithMark line = false) :
    mergeMarks (unlines (first :: more)) = unlines ((first :: more).map mergeMarks) := by
  induction more generalizing first with
  | nil => simp
  | cons next more ih =>
      have hnext : startsWithMark (unlines (next :: more)) = false := by
        rw [startsWithMark_unlines]
        exact h next (List.mem_cons_self ..)
      have hrest : mergeMarks (unlines (next :: more)) = unlines ((next :: more).map mergeMarks) :=
        ih fun line hline => h line (List.mem_cons_of_mem _ hline)
      rw [unlines_cons_cons, mergeMarks_append_feed hnext, hrest]
      simp only [List.map_cons, unlines_cons_cons]

/-! ## The end of a text -/

theorem getLast?_mergeMarksAfter (last : Char) (t : Text) :
    (mergeMarksAfter last t).getLast? = (last :: t).getLast? := by
  induction t generalizing last with
  | nil => rfl
  | cons c t ih =>
      unfold mergeMarksAfter
      rw [List.getLast?_cons_cons]
      split
      · exact ih c
      · rw [List.getLast?_cons, ih, List.getLast?_cons, Option.getD_some]

theorem getLast?_mergeMarks (t : Text) : (mergeMarks t).getLast? = t.getLast? := by
  cases t with
  | nil => rfl
  | cons c t => exact getLast?_mergeMarksAfter c t

/-- Folding leaves the end of a line alone. -/
theorem dropReturn_mergeMarks (line : Text) :
    dropReturn (mergeMarks line) = mergeMarks (dropReturn line) := by
  have hreturn : isMark '\r' = false := by decide
  by_cases h : line.getLast? = some '\r'
  · obtain ⟨front, rfl⟩ := List.getLast?_eq_some_iff.mp h
    rw [mergeMarks_append hreturn]
    simp [dropReturn, mergeMarksAfter]
  · have hfolded : (mergeMarks line).getLast? ≠ some '\r' := getLast?_mergeMarks line ▸ h
    rw [dropReturn_eq_self_iff.mpr h, dropReturn_eq_self_iff.mpr hfolded]

/-! ## Lines that are joined -/

theorem startsWithMark_dropReturn (line : Text) :
    startsWithMark (dropReturn line) = startsWithMark line := by
  unfold dropReturn
  split
  · rename_i hreturn
    obtain ⟨front, rfl⟩ := List.getLast?_eq_some_iff.mp hreturn
    rw [List.dropLast_concat]
    cases front with
    | nil =>
        have hmark : isMark '\r' = false := by decide
        simp [startsWithMark, hmark]
    | cons c front => rfl
  · rfl

/-- How many line feeds of the text a mark follows. -/
def joins (t : Text) : Nat :=
  (splitLines t).tail.countP startsWithMark

theorem joins_cons (c : Char) (t : Text) :
    joins (c :: t) = (if c = '\n' ∧ startsWithMark t = true then 1 else 0) + joins t := by
  obtain ⟨line, more, hs⟩ := List.exists_cons_of_ne_nil (splitLines_ne_nil t)
  have hline : startsWithMark t = startsWithMark line := by
    rw [← unlines_splitLines t, hs, startsWithMark_unlines]
  unfold joins
  by_cases hc : c = '\n'
  · simp only [splitLines, hc, if_true, hs, List.tail_cons, List.countP_cons, hline, true_and]
    exact Nat.add_comm ..
  · simp [splitLines, hc, hs]

/-- Folding takes the line feeds that marks follow, and no other. -/
theorem count_mergeMarksAfter (last : Char) (t : Text) :
    (mergeMarksAfter last t).count '\n' + joins (last :: t) = (last :: t).count '\n' := by
  induction t generalizing last with
  | nil =>
      rw [joins_cons]
      simp [mergeMarksAfter, startsWithMark, joins, splitLines]
  | cons c t ih =>
      have hrest := ih c
      rw [joins_cons]
      have hstart : startsWithMark (c :: t) = isMark c := rfl
      by_cases hc : isMark c = true
      · simp only [mergeMarksAfter, hc, if_true, hstart, and_true, List.count_cons,
          beq_iff_eq] at hrest ⊢
        omega
      · simp only [mergeMarksAfter, hc, hstart, and_false, if_false, Bool.false_eq_true,
          List.count_cons, beq_iff_eq] at hrest ⊢
        omega

theorem length_splitLines (t : Text) : (splitLines t).length = t.count '\n' + 1 := by
  induction t with
  | nil => rfl
  | cons c t ih =>
      obtain ⟨line, more, hs⟩ := List.exists_cons_of_ne_nil (splitLines_ne_nil t)
      rw [hs] at ih
      by_cases hc : c = '\n'
      · simp [splitLines, hc, hs, ← ih]
      · simp [splitLines, hc, hs, ← ih]

theorem length_splitLines_mergeMarks (t : Text) :
    (splitLines (mergeMarks t)).length + joins t = (splitLines t).length := by
  rw [length_splitLines, length_splitLines]
  cases t with
  | nil => rfl
  | cons c t =>
      have hcount := count_mergeMarksAfter c t
      have hfold : mergeMarks (c :: t) = mergeMarksAfter c t := rfl
      rw [hfold]
      omega

/-- The last piece of a text is empty if the text is or ends with a line feed. -/
theorem final_eq_nil_iff {before : List Text} {final : Text}
    (h : splitLines t = before ++ [final]) : final = [] ↔ ∀ c ∈ t.getLast?, c = '\n' := by
  have htext : t = unlines (before ++ [final]) := by rw [← h, unlines_splitLines]
  have hfeed : '\n' ∉ final := not_mem_of_mem_splitLines (h ▸ List.mem_concat_self)
  have hlast : final ≠ [] → t.getLast? = final.getLast? := by
    intro hne
    cases before with
    | nil => rw [htext, List.nil_append, unlines_singleton]
    | cons first before =>
        rw [htext, unlines_append (List.cons_ne_nil _ _) (List.cons_ne_nil _ _), unlines_singleton,
          List.getLast?_append_of_ne_nil _ (List.cons_ne_nil _ _), List.getLast?_cons_of_ne_nil hne]
  constructor
  · rintro rfl c hc
    cases before with
    | nil =>
        rw [htext, List.nil_append, unlines_singleton] at hc
        cases hc
    | cons first before =>
        rw [htext, unlines_append (List.cons_ne_nil _ _) (List.cons_ne_nil _ _), unlines_singleton,
          List.getLast?_concat] at hc
        exact (Option.some.inj hc).symm
  · intro hall
    by_contra hne
    have hc := List.getLast?_eq_some_getLast hne
    exact hfeed (hall _ (hlast hne ▸ hc) ▸ List.getLast_mem hne)

theorem exists_final (t : Text) : ∃ before final, splitLines t = before ++ [final] :=
  ⟨_, _, (List.dropLast_concat_getLast (splitLines_ne_nil t)).symm⟩

theorem countP_tail_lines (t : Text) : (lines t).tail.countP startsWithMark = joins t := by
  obtain ⟨before, final, h⟩ := exists_final t
  have hempty : (if final.isEmpty then [] else [final]).countP startsWithMark =
      [final].countP startsWithMark := by
    split
    · rename_i hnil
      rw [List.isEmpty_iff.mp hnil]
      rfl
    · rfl
  rw [lines_of_splitLines h, joins, h]
  cases before with
  | nil => split <;> rfl
  | cons first before =>
      simp only [List.map_cons, List.cons_append, List.tail_cons, List.countP_append, hempty,
        List.countP_map, Function.comp_def, startsWithMark_dropReturn]

/-- Folding takes as many lines as begin with a mark. -/
theorem length_lines_mergeMarks (t : Text) :
    (lines (mergeMarks t)).length + joins t = (lines t).length := by
  have hpieces := length_splitLines_mergeMarks t
  obtain ⟨before, final, h⟩ := exists_final t
  obtain ⟨before', final', h'⟩ := exists_final (mergeMarks t)
  have hfinal : final' = [] ↔ final = [] := by
    rw [final_eq_nil_iff h', final_eq_nil_iff h, getLast?_mergeMarks]
  have hlength : ∀ final : Text,
      (if final.isEmpty then [] else [final]).length = if final = [] then 0 else 1 := by
    intro final
    cases final <;> rfl
  simp only [h, h', List.length_append, List.length_singleton] at hpieces
  simp only [lines_of_splitLines h, lines_of_splitLines h', List.length_append, List.length_map,
    hlength, hfinal]
  omega

theorem lines_mergeMarks (h : joins t = 0) : lines (mergeMarks t) = (lines t).map mergeMarks := by
  have hstart : ∀ line ∈ (splitLines t).tail, startsWithMark line = false := fun line hline =>
    Bool.eq_false_iff.mpr (List.countP_eq_zero.mp h line hline)
  obtain ⟨first, more, hs⟩ := List.exists_cons_of_ne_nil (splitLines_ne_nil t)
  rw [hs, List.tail_cons] at hstart
  have hpieces : splitLines (mergeMarks t) = (splitLines t).map mergeMarks := by
    have hfolded : mergeMarks t = unlines ((splitLines t).map mergeMarks) := by
      rw [hs, ← mergeMarks_unlines hstart, ← hs, unlines_splitLines]
    have hfree : ∀ piece ∈ (splitLines t).map mergeMarks, '\n' ∉ piece :=
      List.forall_mem_map.mpr fun piece hpiece hmem =>
        not_mem_of_mem_splitLines hpiece (mem_of_mem_mergeMarks hmem)
    rw [hfolded, splitLines_unlines (by simp [hs]) hfree]
  obtain ⟨before, final, hfinal⟩ := exists_final t
  rw [hfinal, List.map_append] at hpieces
  rw [lines_of_splitLines hfinal, lines_of_splitLines hpieces, List.map_append, List.map_map,
    List.map_map]
  have hreturn : dropReturn ∘ mergeMarks = mergeMarks ∘ dropReturn := funext dropReturn_mergeMarks
  have hempty : (mergeMarks final).isEmpty = final.isEmpty := by
    have hlast := getLast?_mergeMarks final
    rw [Bool.eq_iff_iff, List.isEmpty_iff, List.isEmpty_iff, ← List.getLast?_eq_none_iff, hlast,
      List.getLast?_eq_none_iff]
  rw [hreturn, hempty]
  split <;> rfl

/-- **Folding line by line.** Folding the marks of a text folds them line by line exactly if no line
but the first begins with a mark. In any case each line that does is joined to the one before it, so
that as many lines are missing. -/
theorem lines_mergeMarks_iff (t : Text) :
    (lines (mergeMarks t) = (lines t).map mergeMarks ↔
        ∀ line ∈ (lines t).tail, startsWithMark line = false)
      ∧ (lines (mergeMarks t)).length + (lines t).tail.countP startsWithMark =
        (lines t).length := by
  have hlength := length_lines_mergeMarks t
  rw [countP_tail_lines]
  refine ⟨?_, hlength⟩
  have hnone : (∀ line ∈ (lines t).tail, startsWithMark line = false) ↔ joins t = 0 := by
    simp [← countP_tail_lines, List.countP_eq_zero]
  rw [hnone]
  refine ⟨fun heq => ?_, lines_mergeMarks⟩
  rw [heq, List.length_map] at hlength
  omega

/-- A mark in the first column takes the end of the line before it. -/
theorem lines_mergeMarks_ne_accent :
    lines "a\n\u0301b".toList = ["a".toList, "\u0301b".toList]
      ∧ lines (mergeMarks "a\n\u0301b".toList) = ["a\u0301b".toList]
      ∧ lines (mergeMarks "a\n\u0301b".toList) ≠ (lines "a\n\u0301b".toList).map mergeMarks := by
  decide

end KeyboardLayout.Text
