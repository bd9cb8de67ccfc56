import KeyboardLayout.Proofs.DrawnText

/-!
# Texts with padded marks

Folding takes the blank away that padding puts before a mark, so padding comes first without loss.
The other order is different: a mark takes the place of whatever character stands before it, be it
a letter or a mark that has just taken another's place, and padding always puts a blank there. So
`splitMarks` undoes `mergeMarks` on exactly the texts that padding can make, those in which every
mark stands right behind a blank (`marks_inverse`).

The walk over a text needs to know what stands before the rest of it, hence `PaddedAfter`.
-/

namespace KeyboardLayout.Text

/-- Every combining mark of the text stands right behind a blank. -/
def Padded (t : Text) : Prop :=
  ∀ front c rest, t = front ++ c :: rest → isMark c = true → front.getLast? = some ' '

/-- The text is padded if `before` is what stands right before it. -/
def PaddedAfter : Option Char → Text → Prop
  | _, [] => True
  | before, c :: rest => (isMark c = true → before = some ' ') ∧ PaddedAfter (some c) rest

/-- What stands before the rest of a text is the last character before it. -/
theorem getLast?_cons_or (before : Option Char) (c : Char) (front : Text) :
    (c :: front).getLast?.or before = front.getLast?.or (some c) := by
  rw [List.getLast?_cons]
  cases front.getLast? <;> rfl

theorem paddedAfter_iff {before : Option Char} {t : Text} :
    PaddedAfter before t ↔ ∀ front c rest, t = front ++ c :: rest → isMark c = true →
      front.getLast?.or before = some ' ' := by
  induction t generalizing before with
  | nil => simp [PaddedAfter]
  | cons d t ih =>
      rw [PaddedAfter, ih]
      constructor
      · rintro ⟨hd, ht⟩ front c rest heq hc
        cases front with
        | nil =>
            obtain ⟨rfl, -⟩ := List.cons.inj heq
            exact hd hc
        | cons e front =>
            obtain ⟨rfl, rfl⟩ := List.cons.inj heq
            rw [getLast?_cons_or]
            exact ht front c rest rfl hc
      · intro h
        refine ⟨h [] d t rfl, fun front c rest heq hc => ?_⟩
        rw [← getLast?_cons_or before]
        exact h (d :: front) c rest (congrArg (d :: ·) heq) hc

theorem padded_iff {t : Text} : Padded t ↔ PaddedAfter none t := by
  rw [paddedAfter_iff]
  simp only [Option.or_none]
  rfl

/-- Padding leaves every mark behind a blank. -/
theorem paddedAfter_splitMarks (before : Option Char) (t : Text) :
    PaddedAfter before (splitMarks t) := by
  induction t generalizing before with
  | nil => trivial
  | cons c rest ih =>
      rw [splitMarks_cons]
      by_cases hc : isMark c = true
      · simp [hc, PaddedAfter, not_isMark_space, ih]
      · simp [hc, PaddedAfter, ih]

/-- A mark that is folded onto a blank gets the blank back. -/
theorem splitMarks_mergeMarksAfter {last : Char} {t : Text} (h : PaddedAfter (some last) t) :
    splitMarks (mergeMarksAfter last t) = splitMarks [last] ++ t := by
  induction t generalizing last with
  | nil => rw [mergeMarksAfter, List.append_nil]
  | cons c rest ih =>
      obtain ⟨hmark, hrest⟩ := h
      unfold mergeMarksAfter
      by_cases hc : isMark c = true
      · obtain rfl := Option.some.inj (hmark hc)
        rw [if_pos hc, ih hrest]
        simp [splitMarks, hc, not_isMark_space]
      · rw [if_neg hc, splitMarks_cons, ih hrest]
        simp [splitMarks, hc]

theorem splitMarks_mergeMarks {t : Text} (h : PaddedAfter none t) :
    splitMarks (mergeMarks t) = t := by
  cases t with
  | nil => rfl
  | cons c rest =>
      obtain ⟨hmark, hrest⟩ := h
      have hc : ¬isMark c = true := fun hc => nomatch hmark hc
      rw [mergeMarks, splitMarks_mergeMarksAfter hrest]
      simp [splitMarks, hc]

/-- **Padding and folding.** Folding undoes padding on every text. Padding undoes folding exactly
where every mark of the text stands right behind a blank. -/
theorem marks_inverse :
    (∀ t, mergeMarks (splitMarks t) = t)
      ∧ ∀ t, splitMarks (mergeMarks t) = t ↔ Padded t := by
  refine ⟨mergeMarks_splitMarks, fun t => ?_⟩
  rw [padded_iff]
  constructor
  · intro h
    rw [← h]
    exact paddedAfter_splitMarks none _
  · exact splitMarks_mergeMarks

/-- Of two marks in a row only the second is left. -/
example : mergeMarks "a \u0301\u0300b".toList = "a\u0300b".toList := by decide

end KeyboardLayout.Text
