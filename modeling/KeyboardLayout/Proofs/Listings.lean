import KeyboardLayout.Sectioned
import Mathlib.Data.List.Basic

/-!
# What a listing tells

A listing gives every key lines of its own between section titles and blank lines. Its lines are
those of its blocks and blank ones (`filterMap_blocks`, `forall_mem_listing`). Where each key has
one line, the listing determines the line of every key (`listing_inj`), and that line has the same
number in all such listings (`getElem?_listing`).
-/

namespace KeyboardLayout.Sectioned

theorem blocks_cons_cons (part next : List Text) (rest : List (List Text)) :
    blocks (part :: next :: rest) = part ++ [] :: blocks (next :: rest) := by
  simp [blocks, List.intercalate_cons_cons]

/-! ## Lines of a listing -/

/-- A reader that skips blank lines reads block by block. -/
theorem filterMap_blocks {α : Type} {f : Text → Option α} (hblank : f [] = none)
    (parts : List (List Text)) :
    (blocks parts).filterMap f = parts.flatMap (·.filterMap f) := by
  induction parts with
  | nil => rfl
  | cons part rest ih =>
      cases rest with
      | nil => simp [blocks]
      | cons next rest =>
          rw [blocks_cons_cons, List.filterMap_append, List.filterMap_cons_none hblank, ih,
            ← List.flatMap_cons]

theorem filter_blocks {p : Text → Bool} (hblank : p [] = false) (parts : List (List Text)) :
    (blocks parts).filter p = parts.flatMap (·.filter p) := by
  have hread := filterMap_blocks (f := Option.guard fun line => p line) (by simp [hblank]) parts
  simpa only [List.filterMap_eq_filter] using hread

theorem mem_blocks_iff {line : Text} (hline : line ≠ []) {parts : List (List Text)} :
    line ∈ blocks parts ↔ ∃ part ∈ parts, line ∈ part := by
  have hkept : ∀ ls : List Text, line ∈ ls.filter (!·.isEmpty) ↔ line ∈ ls := by
    simp [hline]
  rw [← hkept, filter_blocks rfl, List.mem_flatMap]
  simp only [hkept]

theorem forall_mem_blocks {P : Text → Prop} (hnil : P []) {parts : List (List Text)}
    (h : ∀ part ∈ parts, ∀ line ∈ part, P line) : ∀ line ∈ blocks parts, P line := by
  intro line hline
  by_cases hempty : line = []
  · rwa [hempty]
  · obtain ⟨part, hpart, hin⟩ := (mem_blocks_iff hempty).mp hline
    exact h part hpart line hin

theorem forall_mem_listing {P : Text → Prop} (hnil : P []) {title : Text → Text}
    {lines : Key → List Text} (htitle : ∀ group ∈ Key.sections, P (title group.title))
    (hlines : ∀ key, ∀ line ∈ lines key, P line) :
    ∀ line ∈ listing title lines, P line := by
  refine forall_mem_blocks hnil fun part hpart line hline => ?_
  obtain ⟨group, hgroup, rfl⟩ := List.mem_map.mp hpart
  rcases List.mem_cons.mp hline with rfl | hline
  · exact htitle group hgroup
  · obtain ⟨key, -, hin⟩ := List.mem_flatMap.mp hline
    exact hlines key line hin

/-! ## Telling listings apart -/

/-- Blocks of known lengths can be told apart. -/
theorem blocks_inj {ps qs : List (List Text)} (hlength : ps.map List.length = qs.map List.length)
    (h : blocks ps = blocks qs) : ps = qs := by
  induction ps generalizing qs with
  | nil => exact (List.map_eq_nil_iff.mp hlength.symm).symm
  | cons p ps ih =>
      cases qs with
      | nil => cases hlength
      | cons q qs =>
          obtain ⟨hp, hrest⟩ := List.cons.inj hlength
          cases ps with
          | nil =>
              obtain rfl := List.map_eq_nil_iff.mp hrest.symm
              simpa [blocks] using h
          | cons p' ps =>
              cases qs with
              | nil => cases hrest
              | cons q' qs =>
                  rw [blocks_cons_cons, blocks_cons_cons] at h
                  obtain ⟨hpq, htail⟩ := List.append_inj h hp
                  rw [hpq, ih hrest (List.cons.inj htail).2]

/-- A listing determines the line of every key. -/
theorem listing_inj {title : Text → Text} {f g : Key → Text}
    (h : listing title (fun key => [f key]) = listing title (fun key => [g key])) (key : Key) :
    f key = g key := by
  have hlines : ∀ (f : Key → Text) (keys : List Key), keys.flatMap (fun key => [f key]) =
      keys.map f := fun f keys => List.map_eq_flatMap.symm
  have hlength : (Key.sections.map (block title fun key => [f key])).map List.length =
      (Key.sections.map (block title fun key => [g key])).map List.length := by
    simp only [List.map_map, Function.comp_def, block, hlines, List.length_cons, List.length_map]
  have hblocks := List.map_inj_left.mp (blocks_inj hlength h)
  obtain ⟨group, hgroup, hkey⟩ := List.mem_flatMap.mp (Key.mem_all key)
  have hgroup := (List.cons.inj (hblocks group hgroup)).2
  rw [hlines, hlines] at hgroup
  exact List.map_inj_left.mp hgroup key hkey

/-! ## The line of a key -/

/-- What a line of a listing is about. -/
inductive Slot
  | blank
  | title (group : KeySection)
  | key (key : Key)
  deriving DecidableEq

/-- What the lines of a listing with one line for each key are about. -/
def slots : List Slot :=
  [Slot.blank].intercalate (Key.sections.map fun group => .title group :: group.keys.map .key)

/-- The number of the line of a key. -/
def lineNumber (key : Key) : Nat :=
  slots.idxOf (.key key)

def Slot.text (title : Text → Text) (line : Key → Text) : Slot → Text
  | .blank => []
  | .title group => title group.title
  | .key k => line k

theorem map_intercalate {α β : Type} (f : α → β) (separator : List α) (parts : List (List α)) :
    (separator.intercalate parts).map f = (separator.map f).intercalate (parts.map (List.map f)) := by
  induction parts with
  | nil => rfl
  | cons part rest ih =>
      cases rest with
      | nil => simp
      | cons next rest =>
          rw [List.intercalate_cons_cons, List.map_append, List.map_append, ih]
          exact List.intercalate_cons_cons.symm

theorem listing_eq_map (title : Text → Text) (line : Key → Text) :
    listing title (fun key => [line key]) = slots.map (Slot.text title line) := by
  have hblock : ∀ group : KeySection, block title (fun key => [line key]) group =
      (Slot.title group :: group.keys.map .key).map (Slot.text title line) := by
    intro group
    rw [block, ← List.map_eq_flatMap, List.map_cons, List.map_map]
    rfl
  rw [slots, map_intercalate, List.map_map]
  exact congrArg blocks (List.map_congr_left fun group _ => hblock group)

theorem key_mem_slots (key : Key) : Slot.key key ∈ slots := by
  have hall : ∀ key ∈ Key.all, Slot.key key ∈ slots := by decide
  exact hall key (Key.mem_all key)

/-- The line of a key has the same number in every listing. -/
theorem getElem?_listing (title : Text → Text) (line : Key → Text) (key : Key) :
    (listing title fun key => [line key])[lineNumber key]? = some (line key) := by
  rw [listing_eq_map, List.getElem?_map, lineNumber, List.getElem?_idxOf (key_mem_slots key)]
  rfl

end KeyboardLayout.Sectioned
