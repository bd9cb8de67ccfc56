import KeyboardLayout.Text.Basic

/-!
# Lines

A text is cut into lines at its line feeds. `splitLines` keeps every piece, so that joining them
again gives the text (`unlines_splitLines`). `lines` reads a file: a line feed ends a line, a
carriage return before it belongs to the line end, and no empty line follows the last line feed.
-/

namespace KeyboardLayout.Text

/-- The pieces of a text between its line feeds; there is always at least one. -/
def splitLines : Text → List Text
  | [] => [[]]
  | c :: rest =>
    if c = '\n' then [] :: splitLines rest
    else
      match splitLines rest with
      | [] => [[c]]
      | line :: more => (c :: line) :: more

/-- A line without the carriage return that belongs to its line end. -/
def dropReturn (line : Text) : Text :=
  if line.getLast? = some '\r' then line.dropLast else line

def lines (t : Text) : List Text :=
  let pieces := splitLines t
  let final := pieces.getLast?.getD []
  pieces.dropLast.map dropReturn ++ (if final.isEmpty then [] else [final])

/-- The pieces of a text that ends with the last of them. -/
def unlines (pieces : List Text) : Text :=
  join ['\n'] pieces

theorem splitLines_ne_nil (t : Text) : splitLines t ≠ [] := by
  cases t with
  | nil => simp [splitLines]
  | cons c rest =>
    simp only [splitLines]
    split
    · simp
    · split <;> simp

/-- Nothing is lost: the pieces, joined by line feeds, are the text. -/
theorem unlines_splitLines (t : Text) : unlines (splitLines t) = t := by
  induction t with
  | nil => rfl
  | cons c rest ih =>
    simp only [splitLines]
    split
    · rename_i h
      subst h
      obtain ⟨line, more, hs⟩ := List.exists_cons_of_ne_nil (splitLines_ne_nil rest)
      rw [hs] at ih ⊢
      simpa [unlines, join, List.intercalate] using ih
    · obtain ⟨line, more, hs⟩ := List.exists_cons_of_ne_nil (splitLines_ne_nil rest)
      rw [hs] at ih ⊢
      cases more with
      | nil => simpa [unlines, join, List.intercalate] using ih
      | cons l2 more => simpa [unlines, join, List.intercalate] using ih

end KeyboardLayout.Text
