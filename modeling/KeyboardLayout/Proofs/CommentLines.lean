import KeyboardLayout.Proofs.DrawnText

/-!
# Lines that are comments

A text that is written behind the start of a comment leaves the comment at each of its line ends.
It stays in comments exactly if it is `Continued`: if every line behind its first one is empty or a
comment of its own (`commented_append_iff`). For texts that are written one after the other with
something between them this can be told one by one (`continued_append_iff`).
-/

namespace KeyboardLayout.Text

variable {line s t behind : Text} {pieces : List Text}

/-- The line is empty or a comment. -/
def Comment (line : Text) : Prop :=
  line = [] ∨ "//".toList <+: line

instance : DecidablePred Comment :=
  fun line => inferInstanceAs (Decidable (line = [] ∨ "//".toList <+: line))

/-- The text makes nothing but comments. -/
def Commented (t : Text) : Prop :=
  ∀ line ∈ splitLines t, Comment (dropReturn line)

instance (t : Text) : Decidable (Commented t) :=
  List.decidableBAll _ (splitLines t)

/-- Behind its first line the text makes nothing but comments. -/
def Continued (t : Text) : Prop :=
  ∀ line ∈ (splitLines t).tail, Comment (dropReturn line)

instance (t : Text) : Decidable (Continued t) :=
  List.decidableBAll _ (splitLines t).tail

/-! ## Single lines -/

/-- A line of two characters or more is a comment with or without its carriage return. -/
theorem comment_dropReturn_iff (h : 2 ≤ line.length) :
    Comment (dropReturn line) ↔ "//".toList <+: line := by
  have hcomment : ∀ init : Text, init ≠ [] → (Comment init ↔ "//".toList <+: init) :=
    fun init hinit => or_iff_right hinit
  have hne : line ≠ [] := by
    rintro rfl
    exact absurd h (by decide)
  unfold dropReturn
  split
  · rename_i hreturn
    obtain ⟨init, rfl⟩ := List.getLast?_eq_some_iff.mp hreturn
    have hinit : init ≠ [] := by
      rintro rfl
      exact absurd h (by decide)
    have hslashes : "//".toList ≠ init ++ ['\r'] := fun heq =>
      absurd (congrArg List.getLast? heq) (by rw [List.getLast?_concat]; decide)
    rw [List.dropLast_concat, hcomment init hinit, List.prefix_concat_iff]
    exact (or_iff_right hslashes).symm
  · exact hcomment line hne

theorem not_comment_dropReturn {c : Char} (h : c ∉ ['/', '\r']) (line : Text) :
    ¬Comment (dropReturn (c :: line)) := by
  obtain ⟨hslash, hreturn⟩ : c ≠ '/' ∧ c ≠ '\r' := by simpa using h
  have hcomment : ∀ rest, ¬Comment (c :: rest) := by
    rintro rest (hnil | ⟨behind, hslashes⟩)
    · cases hnil
    · exact hslash (List.cons.inj hslashes).1.symm
  unfold dropReturn
  split
  · rename_i hlast
    cases line with
    | nil => exact absurd (Option.some.inj hlast) hreturn
    | cons d rest => exact hcomment _
  · exact hcomment line

/-! ## Texts with line ends -/

/-- A text in front goes into the first line if it has no line feed. -/
theorem splitLines_append_of_not_mem (h : '\n' ∉ s) (t : Text) :
    ∃ first more, splitLines t = first :: more ∧ splitLines (s ++ t) = (s ++ first) :: more := by
  obtain ⟨first, more, hfirst⟩ := List.exists_cons_of_ne_nil (splitLines_ne_nil t)
  refine ⟨first, more, hfirst, ?_⟩
  induction s with
  | nil => exact hfirst
  | cons c s ih =>
      rw [List.mem_cons, not_or] at h
      simp only [List.cons_append, splitLines, ih h.2, if_neg (Ne.symm h.1)]

/-- Before a line end at its end, a text is made of comments if its lines are. -/
theorem forall_comment_lines_iff :
    (∀ line ∈ lines (t ++ ['\n']), Comment line) ↔ Commented t := by
  have hpieces : splitLines (t ++ ['\n']) = splitLines t ++ [[]] := splitLines_append_feed t []
  have hlines : lines (t ++ ['\n']) = (splitLines t).map dropReturn := by
    rw [lines_of_splitLines hpieces]
    exact List.append_nil _
  rw [hlines, List.forall_mem_map]
  rfl

theorem commented_append_feed : Commented (s ++ '\n' :: t) ↔ Commented s ∧ Commented t := by
  unfold Commented
  rw [splitLines_append_feed, List.forall_mem_append]

theorem commented_unlines (h : pieces ≠ []) :
    Commented (unlines pieces) ↔ ∀ piece ∈ pieces, Commented piece := by
  induction pieces with
  | nil => exact absurd rfl h
  | cons piece rest ih =>
      cases rest with
      | nil => rw [unlines_singleton, List.forall_mem_singleton]
      | cons next rest =>
          rw [unlines_cons_cons, commented_append_feed, ih (List.cons_ne_nil next rest),
            List.forall_mem_cons (l := next :: rest)]

/-- Behind the start of a comment a text stays in comments if it is continued. -/
theorem commented_append_iff (hs : '\n' ∉ s) (hlength : 2 ≤ s.length) (t : Text) :
    Commented (s ++ t) ↔ "//".toList <+: s ∧ Continued t := by
  obtain ⟨first, more, hfirst, hpieces⟩ := splitLines_append_of_not_mem hs t
  have hline : "//".toList <+: s ++ first ↔ "//".toList <+: s :=
    ⟨fun hslashes => List.prefix_of_prefix_length_le hslashes (List.prefix_append s first) hlength,
      fun hslashes => hslashes.trans (List.prefix_append s first)⟩
  have hlong : 2 ≤ (s ++ first).length := by
    rw [List.length_append]
    omega
  unfold Commented Continued
  rw [hpieces, hfirst, List.forall_mem_cons, comment_dropReturn_iff hlong, hline, List.tail_cons]

theorem continued_of_not_mem (h : '\n' ∉ t) : Continued t := by
  unfold Continued
  rw [splitLines_of_not_mem h]
  exact fun _ hnil => absurd hnil List.not_mem_nil

theorem continued_append_of_not_mem (h : '\n' ∉ s) (t : Text) :
    Continued (s ++ t) ↔ Continued t := by
  obtain ⟨first, more, hfirst, hpieces⟩ := splitLines_append_of_not_mem h t
  unfold Continued
  rw [hpieces, hfirst, List.tail_cons, List.tail_cons]

theorem continued_append_feed : Continued (s ++ '\n' :: t) ↔ Continued s ∧ Commented t := by
  unfold Continued Commented
  rw [splitLines_append_feed, List.tail_append_of_ne_nil (splitLines_ne_nil s),
    List.forall_mem_append]

/-- Texts with something between them are continued one by one: what stands behind the first one
counts for its last line. -/
theorem continued_append_iff (hfeed : '\n' ∉ behind) (hlength : 2 ≤ behind.length) (s t : Text) :
    Continued (s ++ (behind ++ t)) ↔ Continued (s ++ behind) ∧ Continued t := by
  by_cases hs : '\n' ∈ s
  · -- the text between stands behind the last line of the first text
    obtain ⟨before, final, rfl, hfinal⟩ :
        ∃ before final, s = before ++ '\n' :: final ∧ '\n' ∉ final := by
      obtain ⟨final, before, hreverse, hfinal⟩ :=
        List.eq_append_cons_of_mem (List.mem_reverse.mpr hs)
      refine ⟨before.reverse, final.reverse, ?_, fun hmem => hfinal (List.mem_reverse.mp hmem)⟩
      rw [← List.reverse_reverse s, hreverse]
      simp
    have hline : '\n' ∉ final ++ behind := by
      rw [List.mem_append, not_or]
      exact ⟨hfinal, hfeed⟩
    have hlong : 2 ≤ (final ++ behind).length := by
      rw [List.length_append]
      omega
    have hwhole := commented_append_iff hline hlong t
    have hnone := commented_append_iff hline hlong []
    rw [List.append_nil, and_iff_left (continued_of_not_mem List.not_mem_nil)] at hnone
    have hfront : before ++ '\n' :: final ++ behind = before ++ '\n' :: (final ++ behind) := by simp
    have hall : before ++ '\n' :: final ++ (behind ++ t) =
        before ++ '\n' :: (final ++ behind ++ t) := by simp
    rw [hall, hfront, continued_append_feed, continued_append_feed, hwhole, hnone, and_assoc]
  · have hall : '\n' ∉ s ++ behind := by
      rw [List.mem_append, not_or]
      exact ⟨hs, hfeed⟩
    rw [← List.append_assoc, continued_append_of_not_mem hall,
      and_iff_right (continued_of_not_mem hall)]

/-- What starts with another character is no comment. -/
theorem not_continued {c : Char} (h : c ∉ ['/', '\n', '\r']) (s t : Text) :
    ¬Continued (s ++ '\n' :: c :: t) := by
  obtain ⟨hslash, hfeed, hreturn⟩ : c ≠ '/' ∧ c ≠ '\n' ∧ c ≠ '\r' := by simpa using h
  have hother : c ∉ ['/', '\r'] := by simp [hslash, hreturn]
  obtain ⟨first, more, -, hpieces⟩ :=
    splitLines_append_of_not_mem (s := [c]) (by simpa using hfeed.symm) t
  rw [List.singleton_append] at hpieces
  rw [continued_append_feed]
  rintro ⟨-, hcommented⟩
  refine not_comment_dropReturn hother first (hcommented (c :: first) ?_)
  rw [hpieces]
  exact List.mem_cons_self ..

end KeyboardLayout.Text
