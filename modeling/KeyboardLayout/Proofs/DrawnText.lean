import KeyboardLayout.Text.Lines
import KeyboardLayout.Text.Marks

/-!
# Drawn lines as text

A drawing becomes text by padding its combining marks and joining its lines, and comes back by
folding the marks and cutting at the line feeds. Folding undoes padding on every text
(`mergeMarks_splitMarks`), cutting undoes joining unless a line holds a line feed, ends with a
carriage return or is an empty last one (`lines_unlines_iff`), and `lines_mergeMarks_ofLines` puts
the two together.
-/

namespace KeyboardLayout.Text

/-! ## Marks -/

theorem not_isMark_space : isMark ' ' = false := by decide

theorem not_isMark_feed : isMark '\n' = false := by decide

theorem splitMarks_cons (c : Char) (rest : Text) :
    splitMarks (c :: rest) = (if isMark c then [' ', c] else [c]) ++ splitMarks rest :=
  List.flatMap_cons

@[simp] theorem splitMarks_append (s t : Text) :
    splitMarks (s ++ t) = splitMarks s ++ splitMarks t :=
  List.flatMap_append

/-- A padding space is taken by its mark, whatever was written before it. -/
theorem mergeMarksAfter_splitMarks (last : Char) (t : Text) :
    mergeMarksAfter last (splitMarks t) = last :: t := by
  induction t generalizing last with
  | nil => rfl
  | cons c rest ih =>
      rw [splitMarks_cons]
      by_cases hc : isMark c = true
      · simp [hc, mergeMarksAfter, not_isMark_space, ih]
      · simp [hc, mergeMarksAfter, ih]

/-- Folding undoes padding. -/
theorem mergeMarks_splitMarks (t : Text) : mergeMarks (splitMarks t) = t := by
  cases t with
  | nil => rfl
  | cons c rest =>
      rw [splitMarks_cons]
      by_cases hc : isMark c = true
      · simp [hc, mergeMarks, mergeMarksAfter, mergeMarksAfter_splitMarks]
      · simp [hc, mergeMarks, mergeMarksAfter_splitMarks]

theorem splitMarks_of_forall {t : Text} (h : ∀ c ∈ t, isMark c = false) : splitMarks t = t := by
  induction t with
  | nil => rfl
  | cons c rest ih =>
      rw [splitMarks_cons, ih fun d hd => h d (List.mem_cons_of_mem _ hd)]
      simp [h c (List.mem_cons_self ..)]

/-! ## Joined lines -/

@[simp] theorem unlines_singleton (line : Text) : unlines [line] = line := by
  simp [unlines, join]

@[simp] theorem unlines_cons_cons (line next : Text) (rest : List Text) :
    unlines (line :: next :: rest) = line ++ '\n' :: unlines (next :: rest) := by
  simp [unlines, join, List.intercalate]

theorem unlines_append {ps qs : List Text} (hp : ps ≠ []) (hq : qs ≠ []) :
    unlines (ps ++ qs) = unlines ps ++ '\n' :: unlines qs := by
  induction ps with
  | nil => exact absurd rfl hp
  | cons p ps ih =>
      cases ps with
      | nil =>
          obtain ⟨q, qs, rfl⟩ := List.exists_cons_of_ne_nil hq
          simp
      | cons p' ps =>
          have hrest := ih (List.cons_ne_nil p' ps)
          simp only [List.cons_append, unlines_cons_cons] at hrest ⊢
          rw [hrest, List.append_assoc, List.cons_append]

theorem splitMarks_unlines (lines : List Text) :
    splitMarks (unlines lines) = unlines (lines.map splitMarks) := by
  induction lines with
  | nil => rfl
  | cons line rest ih =>
      cases rest with
      | nil => simp
      | cons next rest =>
          simp only [List.map_cons, unlines_cons_cons, splitMarks_append, splitMarks_cons,
            not_isMark_feed] at ih ⊢
          simp [ih]

theorem splitLines_of_not_mem {line : Text} (h : '\n' ∉ line) : splitLines line = [line] := by
  induction line with
  | nil => rfl
  | cons c rest ih =>
      rw [List.mem_cons, not_or] at h
      simp [splitLines, Ne.symm h.1, ih h.2]

theorem splitLines_append_feed (s t : Text) :
    splitLines (s ++ '\n' :: t) = splitLines s ++ splitLines t := by
  induction s with
  | nil => simp [splitLines]
  | cons c s ih =>
      obtain ⟨line, more, hs⟩ := List.exists_cons_of_ne_nil (splitLines_ne_nil s)
      rw [hs, List.cons_append] at ih
      simp only [List.cons_append, splitLines, ih, hs]
      split <;> rfl

/-- Cutting undoes joining. -/
theorem splitLines_unlines {pieces : List Text} (hne : pieces ≠ [])
    (h : ∀ piece ∈ pieces, '\n' ∉ piece) : splitLines (unlines pieces) = pieces := by
  induction pieces with
  | nil => exact absurd rfl hne
  | cons piece rest ih =>
      have hpiece := h piece (List.mem_cons_self ..)
      cases rest with
      | nil => rw [unlines_singleton, splitLines_of_not_mem hpiece]
      | cons next rest =>
          rw [unlines_cons_cons, splitLines_append_feed, splitLines_of_not_mem hpiece,
            ih (by simp) fun p hp => h p (List.mem_cons_of_mem _ hp)]
          rfl

theorem not_mem_of_mem_splitLines {t piece : Text} (h : piece ∈ splitLines t) : '\n' ∉ piece := by
  induction t generalizing piece with
  | nil => simp_all [splitLines]
  | cons c rest ih =>
      obtain ⟨line, more, hs⟩ := List.exists_cons_of_ne_nil (splitLines_ne_nil rest)
      rw [hs] at ih
      simp only [splitLines, hs] at h
      split at h
      · rcases List.mem_cons.mp h with rfl | h
        · simp
        · exact ih h
      · rename_i hc
        rcases List.mem_cons.mp h with rfl | h
        · rw [List.mem_cons, not_or]
          exact ⟨Ne.symm hc, ih (List.mem_cons_self ..)⟩
        · exact ih (List.mem_cons_of_mem _ h)

theorem dropReturn_eq_self_iff {line : Text} :
    dropReturn line = line ↔ line.getLast? ≠ some '\r' := by
  unfold dropReturn
  split
  · rename_i hreturn
    refine iff_of_false (fun heq => ?_) (not_not_intro hreturn)
    have hlength := congrArg List.length heq
    have hpos : 0 < line.length := List.length_pos_iff.mpr fun h => by simp [h] at hreturn
    rw [List.length_dropLast] at hlength
    omega
  · rename_i hreturn
    exact iff_of_true rfl hreturn

theorem mem_of_mem_dropReturn {line : Text} {c : Char} (h : c ∈ dropReturn line) : c ∈ line := by
  unfold dropReturn at h
  split at h
  · exact (List.dropLast_sublist line).subset h
  · exact h

/-- No line of a file holds a line feed. -/
theorem not_mem_of_mem_lines {t line : Text} (h : line ∈ lines t) : '\n' ∉ line := by
  simp only [lines, List.mem_append, List.mem_map] at h
  rcases h with ⟨piece, hp, rfl⟩ | h
  · have hpiece : piece ∈ splitLines t := (List.dropLast_sublist _).subset hp
    exact fun hc => not_mem_of_mem_splitLines hpiece (mem_of_mem_dropReturn hc)
  · split at h
    · cases h
    · rw [List.mem_singleton] at h
      subst h
      rw [List.getLast?_eq_some_getLast (splitLines_ne_nil t), Option.getD_some]
      exact not_mem_of_mem_splitLines (List.getLast_mem _)

/-- The lines of a text are its pieces without what belongs to their ends, but for an empty last
one. -/
theorem lines_of_splitLines {t final : Text} {pieces : List Text}
    (h : splitLines t = pieces ++ [final]) :
    lines t = pieces.map dropReturn ++ (if final.isEmpty then [] else [final]) := by
  simp [lines, h]

/-- Joined lines without line feeds are read back exactly if none but the last ends with a carriage
return and the last one is not empty. -/
theorem lines_unlines_iff {ls : List Text} (hfeed : ∀ line ∈ ls, '\n' ∉ line) :
    lines (unlines ls) = ls ↔
      (∀ line ∈ ls.dropLast, line.getLast? ≠ some '\r') ∧ ls.getLast? ≠ some [] := by
  rcases List.eq_nil_or_concat ls with rfl | ⟨before, final, rfl⟩
  · exact iff_of_true rfl ⟨fun _ h => absurd h List.not_mem_nil, nofun⟩
  rw [List.concat_eq_append] at hfeed ⊢
  rw [lines_of_splitLines (splitLines_unlines (by simp) hfeed), List.dropLast_concat,
    List.getLast?_concat]
  by_cases hfinal : final = []
  · -- an empty last line is not read back
    refine iff_of_false (fun heq => ?_) fun h => h.2 (congrArg some hfinal)
    have hlength := congrArg List.length heq
    simp [hfinal] at hlength
  · rw [if_neg (by rwa [List.isEmpty_iff]), List.append_left_inj]
    constructor
    · intro heq
      refine ⟨fun line hline => dropReturn_eq_self_iff.mp ?_, fun h => hfinal (Option.some.inj h)⟩
      exact List.map_inj_left.mp (heq.trans (List.map_id _).symm) line hline
    · rintro ⟨hreturn, -⟩
      have hsame : ∀ line ∈ before, dropReturn line = id line := fun line hline =>
        dropReturn_eq_self_iff.mpr (hreturn line hline)
      rw [List.map_congr_left hsame, List.map_id]

/-! ## Drawings -/

/-- The line as the text of a drawing shows it. -/
def indented (indent line : Text) : Text :=
  if line.isEmpty then [] else indent ++ line

/-- The text of a drawing is that of its indented lines with every mark padded. -/
theorem ofLines_eq {indent : Text} (h : ∀ c ∈ indent, isMark c = false) (ls : List Text) :
    ofLines ls indent = splitMarks (unlines (ls.map (indented indent))) := by
  rw [splitMarks_unlines, List.map_map]
  unfold ofLines unlines
  congr 1
  refine List.map_congr_left fun line _ => ?_
  rw [Function.comp_apply]
  unfold indented
  split
  · rfl
  · rw [splitMarks_append, splitMarks_of_forall h]

/-- Folding the marks of a drawing's text leaves the indented lines. -/
theorem mergeMarks_ofLines {indent : Text} (h : ∀ c ∈ indent, isMark c = false) (ls : List Text) :
    mergeMarks (ofLines ls indent) = unlines (ls.map (indented indent)) := by
  rw [ofLines_eq h, mergeMarks_splitMarks]

/-- Drawn lines survive the way through a text. -/
theorem lines_mergeMarks_ofLines {ls : List Text} (hfeed : ∀ line ∈ ls, '\n' ∉ line)
    (hreturn : ∀ line ∈ ls, line.getLast? ≠ some '\r') (hlast : ls.getLast? ≠ some []) :
    lines (mergeMarks (ofLines ls [])) = ls := by
  have hmap : ls.map (indented []) = ls :=
    List.map_id'' (fun line => by cases line <;> rfl) _
  rw [mergeMarks_ofLines (by simp), hmap]
  exact (lines_unlines_iff hfeed).mpr
    ⟨fun line hline => hreturn line ((List.dropLast_sublist ls).subset hline), hlast⟩

end KeyboardLayout.Text
