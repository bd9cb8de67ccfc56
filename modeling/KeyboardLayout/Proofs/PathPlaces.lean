import KeyboardLayout.World
import Mathlib.Data.List.DropRight

/-!
# Where paths lead

A path that is followed part by part from a working directory leads to a place, whether anything
lies there or not (`Path.place`). On a world it leads nowhere else (`World.locate_eq_place`). A name
in a directory may bring a folder of its own, so that its place depends on where this folder leads
(`Path.place_join_append`): nowhere else than the directory itself if the name has no slash.
-/

namespace KeyboardLayout

namespace Path

variable {directory name part rest : Path} {cwd : List Text}

/-! ## Parts -/

theorem isAbsolute_of_slash_not_mem (h : '/' ∉ name) : isAbsolute name = false := by
  cases name with
  | nil => rfl
  | cons c rest => exact beq_false_of_ne fun heq => h (by simp_all)

theorem split_ne_nil (path : Path) : split path ≠ [] := by
  cases path with
  | nil => exact List.cons_ne_nil _ _
  | cons c rest =>
      rw [split]
      split
      · exact List.cons_ne_nil _ _
      · split <;> exact List.cons_ne_nil _ _

theorem split_append_slash (front behind : Path) :
    split (front ++ '/' :: behind) = split front ++ split behind := by
  induction front with
  | nil => rfl
  | cons c front ih =>
      rw [List.cons_append, split, split, ih]
      split
      · rfl
      · cases hfront : split front with
        | nil => exact absurd hfront (split_ne_nil front)
        | cons part more => rfl

theorem split_of_slash_not_mem (h : '/' ∉ name) : split name = [name] := by
  induction name with
  | nil => rfl
  | cons c name ih =>
      obtain ⟨hc, hname⟩ := List.ne_and_not_mem_of_not_mem_cons h
      rw [split, if_neg (Ne.symm hc), ih hname]

theorem slash_not_mem_of_mem_split {path : Path} (h : part ∈ split path) : '/' ∉ part := by
  induction path generalizing part with
  | nil => simp_all [split]
  | cons c path ih =>
      rw [split] at h
      split at h
      · rcases List.mem_cons.mp h with rfl | h
        · exact List.not_mem_nil
        · exact ih h
      · rename_i hc
        cases hpath : split path with
        | nil => exact absurd hpath (split_ne_nil path)
        | cons first more =>
            rw [hpath] at h ih
            rcases List.mem_cons.mp h with rfl | h
            · exact List.not_mem_cons_of_ne_of_not_mem (Ne.symm hc) (ih (List.mem_cons_self ..))
            · exact ih (List.mem_cons_of_mem _ h)

/-- A layout that is called like its file has no slash in its name. -/
theorem slash_not_mem_stem (path : Path) : '/' ∉ stem path := by
  have hname : '/' ∉ (parts path).getLast?.getD [] := by
    cases hlast : (parts path).getLast? with
    | none => exact List.not_mem_nil
    | some part =>
        have hpart := List.mem_of_getLast? hlast
        exact slash_not_mem_of_mem_split (List.mem_filter.mp hpart).1
  unfold stem
  generalize (parts path).getLast?.getD [] = name at hname
  dsimp only
  split
  · exact hname
  · intro hmem
    refine hname (List.mem_reverse.mp ?_)
    exact (List.dropWhile_sublist _).subset (List.mem_of_mem_drop (List.mem_reverse.mp hmem))

/-! ## Places -/

/-- Follows one part of a path. -/
def enter (location : List Text) (part : Text) : List Text :=
  if isIdle part then location
  else if part = ['.', '.'] then location.dropLast
  else location ++ [part]

/-- The place that a path leads to from a working directory. -/
def place (cwd : List Text) (path : Path) : List Text :=
  (split path).foldl enter (if isAbsolute path then [] else cwd)

/-- The path leads to something directly in the directory. -/
def IsChildOf (cwd : List Text) (path directory : Path) : Prop :=
  ∃ name, place cwd path = place cwd directory ++ [name]

/-- The path is empty or ends with a slash. -/
def IsFolder (path : Path) : Prop :=
  path = [] ∨ ∃ front, path = front ++ ['/']

theorem isAbsolute_append {folder : Path} (hfolder : IsFolder folder) (hpart : '/' ∉ part) :
    isAbsolute (folder ++ part) = isAbsolute folder := by
  obtain rfl | ⟨front, rfl⟩ := hfolder
  · exact isAbsolute_of_slash_not_mem hpart
  · cases front <;> rfl

/-- A name without a slash is entered where the folder in front of it leads to. -/
theorem place_append {folder : Path} (hfolder : IsFolder folder) (hpart : '/' ∉ part) :
    place cwd (folder ++ part) = enter (place cwd folder) part := by
  rw [place, place, isAbsolute_append hfolder hpart]
  obtain rfl | ⟨front, rfl⟩ := hfolder
  · rw [List.nil_append, split_of_slash_not_mem hpart]
    rfl
  · rw [List.append_assoc, List.singleton_append, split_append_slash, split_append_slash,
      split_of_slash_not_mem hpart, List.foldl_append, List.foldl_append]
    rfl

theorem isFolder_join {folder : Path} (hfolder : IsFolder folder) :
    IsFolder (join directory folder) := by
  unfold join
  split
  · exact hfolder
  · split
    · rename_i hlast
      obtain rfl | ⟨front, rfl⟩ := hfolder
      · obtain ⟨front, hfront⟩ := List.getLast?_eq_some_iff.mp (beq_iff_eq.mp hlast)
        exact Or.inr ⟨front, by rw [List.append_nil, hfront]⟩
      · exact Or.inr ⟨directory ++ front, (List.append_assoc ..).symm⟩
    · obtain rfl | ⟨front, rfl⟩ := hfolder
      · exact Or.inr ⟨directory, rfl⟩
      · exact Or.inr ⟨directory ++ '/' :: front, by simp⟩

theorem join_append {folder : Path} (hfolder : IsFolder folder) (hpart : '/' ∉ part) :
    join directory (folder ++ part) = join directory folder ++ part := by
  unfold join
  rw [isAbsolute_append hfolder hpart]
  split
  · rfl
  · split <;> simp

@[simp] theorem place_join_nil : place cwd (join directory []) = place cwd directory := by
  unfold join
  split
  · simp_all [isAbsolute]
  · split
    · rw [List.append_nil]
    · have hsame : isAbsolute (directory ++ ['/']) = isAbsolute directory := by
        cases directory <;> simp_all [isAbsolute]
      rw [place, place, hsame, split_append_slash, List.foldl_append]
      rfl

/-! ## Names with a folder -/

/-- The name up to its last slash. -/
def folder (name : Path) : Path :=
  name.rdropWhile (· != '/')

/-- The name behind its last slash. -/
def leaf (name : Path) : Path :=
  name.rtakeWhile (· != '/')

theorem folder_append_leaf (name : Path) : folder name ++ leaf name = name :=
  List.rdropWhile_append_rtakeWhile ..

theorem slash_not_mem_leaf (name : Path) : '/' ∉ leaf name := by
  intro hmem
  have hpasses : ('/' != '/') = true := List.mem_rtakeWhile_imp (p := (· != '/')) hmem
  exact bne_iff_ne.mp hpasses rfl

theorem isFolder_folder (name : Path) : IsFolder (folder name) := by
  by_cases h : folder name = []
  · exact Or.inl h
  · have hlast : (folder name).getLast h = '/' := by
      simpa [folder] using List.rdropWhile_last_not (· != '/') name h
    exact Or.inr ⟨_, hlast ▸ (List.dropLast_append_getLast h).symm⟩

theorem folder_of_slash_not_mem (h : '/' ∉ name) : folder name = [] :=
  List.rdropWhile_eq_nil_iff.mpr fun _ hc => bne_iff_ne.mpr fun heq => h (heq ▸ hc)

/-- Something behind a name is entered where the folder of the name leads to. -/
theorem place_join_append (hrest : '/' ∉ rest) (hlength : 2 < rest.length) :
    place cwd (join directory (name ++ rest)) =
      place cwd (join directory (folder name)) ++ [leaf name ++ rest] := by
  have hname : name ++ rest = folder name ++ (leaf name ++ rest) := by
    rw [← List.append_assoc, folder_append_leaf]
  have hpart : '/' ∉ leaf name ++ rest :=
    fun hmem => (List.mem_append.mp hmem).elim (slash_not_mem_leaf name) hrest
  have hlong : 2 < (leaf name ++ rest).length := by
    rw [List.length_append]
    omega
  -- A part that is longer than two dots is a name.
  have henter : ∀ location, enter location (leaf name ++ rest) = location ++ [leaf name ++ rest] := by
    intro location
    generalize leaf name ++ rest = part at hlong
    have hidle : ¬isIdle part := by
      intro hidle
      rcases part with _ | ⟨c, _ | ⟨d, _ | _⟩⟩ <;> simp_all [isIdle]
    have hup : part ≠ ['.', '.'] := by
      rintro rfl
      exact absurd hlong (by decide)
    rw [enter, if_neg hidle, if_neg hup]
  have hfolder := isFolder_folder name
  rw [hname, join_append hfolder hpart, place_append (isFolder_join hfolder) hpart, henter]

/-- A name with something behind it is directly in the directory exactly if its folder is the
directory. -/
theorem isChildOf_join_iff (hrest : '/' ∉ rest) (hlength : 2 < rest.length) :
    IsChildOf cwd (join directory (name ++ rest)) directory ↔
      place cwd (join directory (folder name)) = place cwd directory := by
  unfold IsChildOf
  rw [place_join_append hrest hlength]
  constructor
  · rintro ⟨child, hchild⟩
    exact (List.append_inj' hchild rfl).1
  · exact fun h => ⟨_, by rw [h]⟩

end Path

/-! ## Places in a world -/

namespace World

variable {world : World} {path : Path} {location final : Location}

theorem walk_eq_foldl {parts : List Text} (h : world.walk location parts = .ok final) :
    final = parts.foldl Path.enter location := by
  induction parts generalizing location with
  | nil => exact (Except.ok.inj h).symm
  | cons part rest ih =>
      unfold walk at h
      rw [List.foldl_cons, Path.enter]
      split at h
      · cases h
      · cases h
      · split at h
        · rename_i hidle
          rw [if_pos hidle]
          exact ih h
        · rename_i hidle
          rw [if_neg hidle]
          split at h
          · rename_i hup
            rw [if_pos hup]
            exact ih h
          · rename_i hup
            rw [if_neg hup]
            split at h
            · cases h
            · exact ih h

/-- A path that leads somewhere leads to its place. -/
theorem locate_eq_place (h : world.locate path = .ok location) :
    location = Path.place world.workingDirectory path := by
  unfold locate at h
  split at h
  · cases h
  · split at h
    · cases h
    · split at h
      · cases h
      · exact walk_eq_foldl h

end World

end KeyboardLayout
