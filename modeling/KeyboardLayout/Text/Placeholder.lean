import KeyboardLayout.Text.Marks
import KeyboardLayout.Text.Word

/-!
# Placeholders

A file frame holds two kinds of placeholders. A line marker stands for a list of lines: the whole
line gives way to them, each led by what precedes the marker. A token, written `${name}` or
`${name=default}`, stands for a value.
-/

namespace KeyboardLayout.Text.Placeholder

/-! ## Line markers -/

def marker (name : Text) : Text :=
  "KALAMINE::".toList ++ name

/-- The text behind a marker, if `t` starts with it and no word runs on behind it. -/
def behindMarker? (mark t : Text) : Option Text :=
  (after? mark t).filter fun rest => isBoundary mark.getLast? rest.head?

/-- The last marker of the first line of `t`: what precedes it, and what follows it. -/
def lastMarker? (mark : Text) : Text → Option (Text × Text)
  | [] => (behindMarker? mark []).map ([], ·)
  | c :: rest =>
    if c = '\n' then (behindMarker? mark (c :: rest)).map ([], ·)
    else
      match lastMarker? mark rest with
      | some (indent, behind) => some (c :: indent, behind)
      | none => (behindMarker? mark (c :: rest)).map ([], ·)

theorem length_behindMarker? {mark t rest : Text} (h : behindMarker? mark t = some rest) :
    rest.length ≤ t.length := by
  have := length_of_after? (Option.filter_eq_some_iff.mp h).1
  omega

theorem length_lastMarker? {mark t indent behind : Text}
    (h : lastMarker? mark t = some (indent, behind)) : behind.length ≤ t.length := by
  induction t generalizing indent with
  | nil =>
    simp only [lastMarker?, Option.map_eq_some_iff, Prod.mk.injEq] at h
    obtain ⟨rest, hr, -, rfl⟩ := h
    exact length_behindMarker? hr
  | cons c t ih =>
    have here {indent behind : Text}
        (h : (behindMarker? mark (c :: t)).map (([], ·)) = some (indent, behind)) :
        behind.length ≤ (c :: t).length := by
      simp only [Option.map_eq_some_iff, Prod.mk.injEq] at h
      obtain ⟨rest, hr, -, rfl⟩ := h
      exact length_behindMarker? hr
    simp only [lastMarker?] at h
    split at h
    · exact here h
    · split at h
      · rename_i indent' behind' hl
        simp only [Option.some.injEq, Prod.mk.injEq] at h
        obtain ⟨-, rfl⟩ := h
        have := ih hl
        simp only [List.length_cons]
        omega
      · exact here h

/-- The rest of the line with its marker line replaced, and what follows the line. -/
def replaceLine (mark : Text) (lines : List Text) (t : Text) : Text × Text :=
  match lastMarker? mark t with
  | some (indent, behind) => (ofLines lines indent, behind.dropWhile (· != '\n'))
  | none => (t.takeWhile (· != '\n'), t.dropWhile (· != '\n'))

theorem length_dropWhile_le {p : Char → Bool} (t : Text) :
    (t.dropWhile p).length ≤ t.length :=
  (List.dropWhile_suffix p).sublist.length_le

theorem length_replaceLine (mark : Text) (lines : List Text) (t : Text) :
    (replaceLine mark lines t).2.length ≤ t.length := by
  simp only [replaceLine]
  split
  · rename_i indent behind h
    have h1 := length_lastMarker? h
    have h2 := length_dropWhile_le (p := (· != '\n')) behind
    exact Nat.le_trans h2 h1
  · exact length_dropWhile_le t

/-- `template` with every line that holds the marker replaced by `lines`. -/
def replaceMarker (mark : Text) (lines : List Text) (template : Text) : Text :=
  match _h : replaceLine mark lines template with
  | (line, []) => line
  | (line, c :: rest) => line ++ c :: replaceMarker mark lines rest
termination_by template.length
decreasing_by
  have := length_replaceLine mark lines template
  rw [_h, List.length_cons] at this
  omega

/-- `template` with every line that holds the marker of `name` replaced by `lines`, each led
by what precedes the last marker of the line. -/
def substituteLines (name : Text) (lines : List Text) (template : Text) : Text :=
  replaceMarker (marker name) lines template

/-! ## Tokens -/

/-- The token at the start of `t`: its default, if it has one, and what follows it. -/
def tokenAt? (token t : Text) : Option (Option Text × Text) :=
  match after? ("$\x7b".toList ++ token) t with
  | some ('\x7d' :: rest) => some (none, rest)
  | some ('=' :: rest) =>
    match rest.dropWhile (· != '\x7d') with
    | _ :: behind => some (some (rest.takeWhile (· != '\x7d')), behind)
    | [] => none
  | _ => none

/-- A token takes the value; an empty value leaves the default, if there is one. -/
def chosen (default? : Option Text) (value : Text) : Text :=
  if value.isEmpty then default?.getD value else value

theorem length_tokenAt? {token t : Text} {default? : Option Text} {rest : Text}
    (h : tokenAt? token t = some (default?, rest)) : rest.length < t.length := by
  simp only [tokenAt?] at h
  split at h
  · rename_i r ha
    have := length_of_after? ha
    simp_all
    omega
  · rename_i r ha
    have := length_of_after? ha
    split at h
    · rename_i d behind hd
      have hl := length_dropWhile_le (p := (· != '\x7d')) r
      rw [hd] at hl
      simp_all
      omega
    · simp at h
  · simp at h

/-- `template` with every occurrence of the token replaced by its value. -/
def substituteToken (token value : Text) : (template : Text) → Text
  | [] => []
  | c :: t =>
    match _h : tokenAt? token (c :: t) with
    | some (default?, rest) => chosen default? value ++ substituteToken token value rest
    | none => c :: substituteToken token value t
termination_by template => template.length
decreasing_by
  · have := length_tokenAt? _h
    simpa using this
  · simp

end KeyboardLayout.Text.Placeholder
