import KeyboardLayout.Driver
import KeyboardLayout.Proofs.DrawnText
import Mathlib.Data.List.Infix
import Mathlib.Data.List.TakeWhile

/-!
# Line markers line by line

Replacing a marker walks over a whole text, but no match goes beyond a line, so that it comes down
to single lines (`replaceMarker_unlines`). Where no line of a view takes part in another match, the
views go into the lines one by one, each in the place of its own marker (`insertViews_unlines`). The
lines of a view may hold line feeds themselves: a text without a double colon stays as it is,
however many lines it makes.
-/

namespace KeyboardLayout

namespace Text

/-- Pieces can be put for one another where they make the same text. -/
theorem unlines_flatMap_congr {f g : Text → List Text} {ps : List Text}
    (hf : ∀ p ∈ ps, f p ≠ []) (hg : ∀ p ∈ ps, g p ≠ [])
    (h : ∀ p ∈ ps, unlines (f p) = unlines (g p)) :
    unlines (ps.flatMap f) = unlines (ps.flatMap g) := by
  induction ps with
  | nil => rfl
  | cons p ps ih =>
      have hp := h p (List.mem_cons_self ..)
      have hfp := hf p (List.mem_cons_self ..)
      have hgp := hg p (List.mem_cons_self ..)
      have hrest := ih (fun q hq => hf q (List.mem_cons_of_mem _ hq))
        (fun q hq => hg q (List.mem_cons_of_mem _ hq)) fun q hq => h q (List.mem_cons_of_mem _ hq)
      cases ps with
      | nil => simpa using hp
      | cons q ps =>
          have hne : ∀ {e : Text → List Text}, e q ≠ [] → (q :: ps).flatMap e ≠ [] := by
            intro e he
            rw [List.flatMap_cons]
            exact List.append_ne_nil_of_left_ne_nil he _
          have hq : q ∈ p :: q :: ps := List.mem_cons_of_mem _ (List.mem_cons_self ..)
          rw [List.flatMap_cons, List.flatMap_cons (f := g), unlines_append hfp (hne (hf q hq)),
            unlines_append hgp (hne (hg q hq)), hp, hrest]

theorem prefix_unlines (piece : Text) (rest : List Text) : piece <+: unlines (piece :: rest) := by
  cases rest with
  | nil => rw [unlines_singleton]
  | cons next rest =>
      rw [unlines_cons_cons]
      exact List.prefix_append ..

theorem infix_unlines {ps : List Text} {p : Text} (h : p ∈ ps) : p <:+: unlines ps := by
  induction ps with
  | nil => cases h
  | cons q qs ih =>
      cases qs with
      | nil => rw [unlines_singleton, List.mem_singleton.mp h]
      | cons r rs =>
          rw [unlines_cons_cons]
          rcases List.mem_cons.mp h with rfl | h
          · exact (List.prefix_append p _).isInfix
          · exact (ih h).trans ⟨q ++ ['\n'], [], by simp⟩

@[simp] theorem isEmpty_splitMarks (t : Text) : (splitMarks t).isEmpty = t.isEmpty := by
  cases t with
  | nil => rfl
  | cons c rest => rw [splitMarks_cons]; split <;> rfl

namespace Placeholder

variable {mark line rest : Text} {lines pieces : List Text}

/-! ## Single lines -/

/-- The lines that stand for a view behind some text; an empty view leaves an empty line. -/
def shownLines (indent : Text) (lines : List Text) : List Text :=
  if lines.isEmpty then [[]] else lines.map (indented indent)

theorem ofLines_eq_unlines (lines : List Text) (indent : Text) :
    ofLines lines indent = unlines (shownLines indent (lines.map splitMarks)) := by
  unfold shownLines
  rw [List.isEmpty_map]
  split
  · rename_i hempty
    rw [List.isEmpty_iff.mp hempty]
    rfl
  · rw [List.map_map]
    unfold ofLines unlines indented
    simp only [Function.comp_def, isEmpty_splitMarks]

theorem shownLines_ne_nil (indent : Text) (lines : List Text) : shownLines indent lines ≠ [] := by
  unfold shownLines
  split
  · exact List.cons_ne_nil _ _
  · rename_i hlines
    rwa [Ne, List.map_eq_nil_iff, ← List.isEmpty_iff]

/-- A line with a marker gives way to the lines of the view. -/
def expand (mark : Text) (lines : List Text) (line : Text) : List Text :=
  match lastMarker? mark line with
  | some (indent, _) => shownLines indent (lines.map splitMarks)
  | none => [line]

theorem expand_ne_nil (mark : Text) (lines : List Text) (line : Text) :
    expand mark lines line ≠ [] := by
  unfold expand
  split
  · exact shownLines_ne_nil _ _
  · exact List.cons_ne_nil _ _

/-! ## What follows a line -/

theorem after?_append_feed {lead : Text} (hlead : '\n' ∉ lead) (line rest : Text) :
    after? lead (line ++ '\n' :: rest) = (after? lead line).map (· ++ '\n' :: rest) := by
  induction lead generalizing line with
  | nil => rfl
  | cons a lead ih =>
      rw [List.mem_cons, not_or] at hlead
      cases line with
      | nil => exact if_neg (Ne.symm hlead.1)
      | cons b line =>
          simp only [List.cons_append, after?]
          split
          · exact ih hlead.2 line
          · rfl

theorem isBoundary_append_feed (before : Option Char) (behind rest : Text) :
    isBoundary before (behind ++ '\n' :: rest).head? = isBoundary before behind.head? := by
  have hfeed : isWordChar '\n' = false := by decide +kernel
  cases behind with
  | nil => simp [isBoundary, hfeed]
  | cons c behind => rfl

theorem behindMarker?_append_feed (hmark : '\n' ∉ mark) (line rest : Text) :
    behindMarker? mark (line ++ '\n' :: rest) =
      (behindMarker? mark line).map (· ++ '\n' :: rest) := by
  unfold behindMarker?
  rw [after?_append_feed hmark]
  cases after? mark line with
  | none => rfl
  | some behind =>
      simp only [Option.map_some, Option.filter_some, isBoundary_append_feed]
      split <;> rfl

/-- The last marker of a line does not depend on what follows the line. -/
theorem lastMarker?_append_feed (hmark : '\n' ∉ mark) (hline : '\n' ∉ line) (rest : Text) :
    lastMarker? mark (line ++ '\n' :: rest) =
      (lastMarker? mark line).map fun found => (found.1, found.2 ++ '\n' :: rest) := by
  induction line with
  | nil =>
      have hbehind := behindMarker?_append_feed hmark [] rest
      rw [List.nil_append] at hbehind
      simp only [List.nil_append, lastMarker?, if_true, hbehind, Option.map_map, Function.comp_def]
  | cons c line ih =>
      rw [List.mem_cons, not_or] at hline
      have hbehind := behindMarker?_append_feed hmark (c :: line) rest
      simp only [List.cons_append] at hbehind ⊢
      simp only [lastMarker?, if_neg (Ne.symm hline.1), ih hline.2, hbehind]
      cases lastMarker? mark line with
      | none => simp only [Option.map_none, Option.map_map, Function.comp_def]
      | some found => rfl

theorem eq_of_lastMarker? {t indent behind : Text}
    (h : lastMarker? mark t = some (indent, behind)) : t = indent ++ mark ++ behind := by
  have hhere : ∀ t indent behind,
      (behindMarker? mark t).map (([] : Text), ·) = some (indent, behind) →
        t = indent ++ mark ++ behind := by
    intro t indent behind h
    obtain ⟨found, hfound, heq⟩ := Option.map_eq_some_iff.mp h
    cases heq
    exact after?_eq_some_iff.mp (Option.filter_eq_some_iff.mp hfound).1
  induction t generalizing indent with
  | nil => exact hhere _ _ _ h
  | cons c t ih =>
      simp only [lastMarker?] at h
      split at h
      · exact hhere _ _ _ h
      · split at h
        · rename_i found hfound
          cases h
          rw [ih hfound]
          rfl
        · exact hhere _ _ _ h

/-- No marker begins in the text. -/
def Markerless (t : Text) : Prop :=
  ¬"::".toList <:+: t

theorem Markerless.of_infix {t : Text} (h : Markerless t) {s : Text} (hs : s <:+: t) :
    Markerless s :=
  fun hcolons => h (hcolons.trans hs)

theorem lastMarker?_of_markerless {t : Text} (h : Markerless t) (name : Text) :
    lastMarker? (marker name) t = none := by
  cases hfound : lastMarker? (marker name) t with
  | none => rfl
  | some found =>
      refine absurd ⟨found.1 ++ "KALAMINE".toList, name ++ found.2, ?_⟩ h
      have hmarker : marker name = "KALAMINE".toList ++ "::".toList ++ name := rfl
      rw [eq_of_lastMarker? hfound, hmarker]
      simp only [List.append_assoc]

theorem expand_of_markerless {t : Text} (h : Markerless t) (name : Text) (lines : List Text) :
    expand (marker name) lines t = [t] := by
  unfold expand
  rw [lastMarker?_of_markerless h]

theorem span_append_cons {stop : Char} {s : Text} (h : stop ∉ s) (rest : Text) :
    (s ++ stop :: rest).takeWhile (· != stop) = s
      ∧ (s ++ stop :: rest).dropWhile (· != stop) = stop :: rest := by
  have hs : ∀ c ∈ s, (c != stop) = true := fun c hc => bne_iff_ne.mpr fun heq => h (heq ▸ hc)
  rw [List.takeWhile_append_of_pos hs, List.dropWhile_append_of_pos hs]
  simp

theorem span_of_not_mem {stop : Char} {s : Text} (h : stop ∉ s) :
    s.takeWhile (· != stop) = s ∧ s.dropWhile (· != stop) = [] := by
  have hs : ∀ c ∈ s, (c != stop) = true := fun c hc => bne_iff_ne.mpr fun heq => h (heq ▸ hc)
  exact ⟨List.takeWhile_eq_self_iff.mpr hs, List.dropWhile_eq_nil_iff.mpr hs⟩

/-! ## Texts of lines -/

theorem replaceLine_append_feed (hmark : '\n' ∉ mark) (hline : '\n' ∉ line) (rest : Text) :
    replaceLine mark lines (line ++ '\n' :: rest) =
      (unlines (expand mark lines line), '\n' :: rest) := by
  unfold replaceLine expand
  rw [lastMarker?_append_feed hmark hline]
  cases h : lastMarker? mark line with
  | none =>
      obtain ⟨htake, hdrop⟩ := span_append_cons hline rest
      simp only [Option.map_none, htake, hdrop, unlines_singleton]
  | some found =>
      have hbehind : '\n' ∉ found.2 := fun hmem => hline <| by
        rw [eq_of_lastMarker? h]
        exact List.mem_append_right _ hmem
      simp only [Option.map_some, (span_append_cons hbehind rest).2, ofLines_eq_unlines]

theorem replaceLine_of_not_mem (hline : '\n' ∉ line) :
    replaceLine mark lines line = (unlines (expand mark lines line), []) := by
  unfold replaceLine expand
  cases h : lastMarker? mark line with
  | none =>
      obtain ⟨htake, hdrop⟩ := span_of_not_mem hline
      simp only [htake, hdrop, unlines_singleton]
  | some found =>
      have hbehind : '\n' ∉ found.2 := fun hmem => hline <| by
        rw [eq_of_lastMarker? h]
        exact List.mem_append_right _ hmem
      simp only [(span_of_not_mem hbehind).2, ofLines_eq_unlines]

theorem replaceMarker_unlines_of_free (hmark : '\n' ∉ mark) (lines : List Text) (hne : pieces ≠ [])
    (hpieces : ∀ piece ∈ pieces, '\n' ∉ piece) :
    replaceMarker mark lines (unlines pieces) = unlines (pieces.flatMap (expand mark lines)) := by
  induction pieces with
  | nil => exact absurd rfl hne
  | cons piece rest ih =>
      have hpiece := hpieces piece (List.mem_cons_self ..)
      cases rest with
      | nil =>
          rw [unlines_singleton, replaceMarker, replaceLine_of_not_mem hpiece]
          simp
      | cons next rest =>
          have hrest := ih (List.cons_ne_nil _ _) fun p hp => hpieces p (List.mem_cons_of_mem _ hp)
          have hflat : (next :: rest).flatMap (expand mark lines) ≠ [] := by
            rw [List.flatMap_cons]
            exact List.append_ne_nil_of_left_ne_nil (expand_ne_nil _ _ _) _
          rw [unlines_cons_cons, replaceMarker, replaceLine_append_feed hmark hpiece,
            List.flatMap_cons, unlines_append (expand_ne_nil _ _ _) hflat, ← hrest]

/-- A marker is replaced line by line, where a text without markers counts as one line. -/
theorem replaceMarker_unlines {name : Text} (hname : '\n' ∉ marker name) (lines : List Text)
    (hne : pieces ≠ []) (hpieces : ∀ piece ∈ pieces, '\n' ∉ piece ∨ Markerless piece) :
    replaceMarker (marker name) lines (unlines pieces) =
      unlines (pieces.flatMap (expand (marker name) lines)) := by
  have hcut : unlines pieces = unlines (pieces.flatMap splitLines) := by
    have hpieces : unlines (pieces.flatMap fun piece => [piece]) =
        unlines (pieces.flatMap splitLines) := by
      refine unlines_flatMap_congr (fun _ _ => List.cons_ne_nil _ _)
        (fun piece _ => splitLines_ne_nil piece) fun piece _ => ?_
      rw [unlines_splitLines, unlines_singleton]
    rwa [List.flatMap_singleton'] at hpieces
  have hnotnil : pieces.flatMap splitLines ≠ [] := by
    obtain ⟨first, more, rfl⟩ := List.exists_cons_of_ne_nil hne
    rw [List.flatMap_cons]
    exact List.append_ne_nil_of_left_ne_nil (splitLines_ne_nil first) _
  have hfree : ∀ line ∈ pieces.flatMap splitLines, '\n' ∉ line := by
    intro line hline
    obtain ⟨piece, -, hin⟩ := List.mem_flatMap.mp hline
    exact not_mem_of_mem_splitLines hin
  have hcutne : ∀ piece, (splitLines piece).flatMap (expand (marker name) lines) ≠ [] := by
    intro piece
    obtain ⟨line, more, hlines⟩ := List.exists_cons_of_ne_nil (splitLines_ne_nil piece)
    rw [hlines, List.flatMap_cons]
    exact List.append_ne_nil_of_left_ne_nil (expand_ne_nil _ _ _) _
  rw [hcut, replaceMarker_unlines_of_free hname lines hnotnil hfree, List.flatMap_assoc]
  refine unlines_flatMap_congr (fun piece _ => hcutne piece) (fun piece _ => expand_ne_nil _ _ _) ?_
  intro piece hpiece
  rcases hpieces piece hpiece with hfeed | hmarkerless
  · rw [splitLines_of_not_mem hfeed, List.flatMap_singleton]
  · have hkept : ∀ line ∈ splitLines piece, expand (marker name) lines line = [line] := by
      intro line hline
      have hinfix := infix_unlines hline
      rw [unlines_splitLines] at hinfix
      exact expand_of_markerless (hmarkerless.of_infix hinfix) name lines
    rw [List.flatMap_congr hkept, List.flatMap_singleton', unlines_splitLines,
      expand_of_markerless hmarkerless, unlines_singleton]

/-! ## Views -/

variable {view : Text × List Text} {views : List (Text × List Text)}

/-- The views go into the piece once: it holds no marker, or it is a line and what takes its place
holds none. -/
def Fits (views : List (Text × List Text)) (piece : Text) : Prop :=
  Markerless piece ∨ '\n' ∉ piece ∧ ∀ view ∈ views,
    expand (marker view.1) view.2 piece = [piece]
      ∨ ∀ shown ∈ expand (marker view.1) view.2 piece, Markerless shown

theorem Fits.expand (h : Fits (view :: views) line) :
    ∀ piece ∈ expand (marker view.1) view.2 line, Fits views piece := by
  intro piece hpiece
  rcases h with hmarkerless | ⟨hfeed, hviews⟩
  · rw [expand_of_markerless hmarkerless, List.mem_singleton] at hpiece
    exact Or.inl (hpiece ▸ hmarkerless)
  · rcases hviews view (List.mem_cons_self ..) with hkept | hshown
    · rw [hkept, List.mem_singleton] at hpiece
      rw [hpiece]
      exact Or.inr ⟨hfeed, fun other hother => hviews other (List.mem_cons_of_mem _ hother)⟩
    · exact Or.inl (hshown piece hpiece)

/-- What the views make of a line, each of them going into the lines that the earlier ones left. -/
def expandAll : List (Text × List Text) → Text → List Text
  | [], line => [line]
  | view :: rest, line => (expand (marker view.1) view.2 line).flatMap (expandAll rest)

theorem insertViews_unlines (hnames : ∀ view ∈ views, '\n' ∉ marker view.1) (hne : pieces ≠ [])
    (hpieces : ∀ piece ∈ pieces, Fits views piece) :
    Driver.insertViews views (unlines pieces) = unlines (pieces.flatMap (expandAll views)) := by
  induction views generalizing pieces with
  | nil => simp [Driver.insertViews, expandAll]
  | cons view rest ih =>
      have hview := hnames view (List.mem_cons_self ..)
      obtain ⟨first, more, rfl⟩ := List.exists_cons_of_ne_nil hne
      have hexpanded : (first :: more).flatMap (expand (marker view.1) view.2) ≠ [] := by
        rw [List.flatMap_cons]
        exact List.append_ne_nil_of_left_ne_nil (expand_ne_nil _ _ _) _
      have hfits : ∀ piece ∈ (first :: more).flatMap (expand (marker view.1) view.2),
          Fits rest piece := by
        intro piece hpiece
        obtain ⟨line, hline, hin⟩ := List.mem_flatMap.mp hpiece
        exact (hpieces line hline).expand piece hin
      have hrest := ih (fun view hview => hnames view (List.mem_cons_of_mem _ hview)) hexpanded
        hfits
      have hsplit : ∀ piece ∈ first :: more, '\n' ∉ piece ∨ Markerless piece := fun piece hpiece =>
        (hpieces piece hpiece).elim Or.inr fun h => Or.inl h.1
      unfold Driver.insertViews at hrest ⊢
      rw [List.foldl_cons, substituteLines, replaceMarker_unlines hview _ hne hsplit, hrest,
        List.flatMap_assoc]
      rfl

/-! ## Views in their places -/

/-- The line holds none of the markers. -/
def Unmarked (views : List (Text × List Text)) (line : Text) : Prop :=
  ∀ view ∈ views, lastMarker? (marker view.1) line = none

theorem expandAll_of_unmarked (h : Unmarked views line) : expandAll views line = [line] := by
  induction views with
  | nil => rfl
  | cons view rest ih =>
      have hrest := ih fun view hview => h view (List.mem_cons_of_mem _ hview)
      simp [expandAll, expand, h view (List.mem_cons_self ..), hrest]

/-- The lines of the first view whose marker ends the line, each led by what precedes it. -/
def placed? (views : List (Text × List Text)) (line : Text) : Option (List Text) :=
  views.findSome? fun view =>
    (line.dropSuffix? (marker view.1)).map fun indent => shownLines indent view.2

/-- If the lines of the views hold no marker and the line at most one, at its end, then the line
gives way to the view of that marker. -/
theorem expandAll_eq
    (hline : ∀ view ∈ views, lastMarker? (marker view.1) line =
      (line.dropSuffix? (marker view.1)).map (·, []))
    (hviews : ∀ view ∈ views, ∀ indent, line.dropSuffix? (marker view.1) = some indent →
      ∀ shown ∈ shownLines indent (view.2.map splitMarks), Unmarked views shown) :
    expandAll views line =
      (placed? (views.map fun view => (view.1, view.2.map splitMarks)) line).getD [line] := by
  induction views with
  | nil => rfl
  | cons view rest ih =>
      unfold expandAll expand
      rw [hline view (List.mem_cons_self ..)]
      simp only [placed?, List.map_cons, List.findSome?_cons]
      cases hindent : line.dropSuffix? (marker view.1) with
      | none =>
          simp only [Option.map_none, List.flatMap_singleton]
          refine ih (fun view hview => hline view (List.mem_cons_of_mem _ hview)) ?_
          intro view hview indent hindent shown hshown other hother
          exact hviews view (List.mem_cons_of_mem _ hview) indent hindent shown hshown other
            (List.mem_cons_of_mem _ hother)
      | some indent =>
          have hrest : ∀ shown ∈ shownLines indent (view.2.map splitMarks),
              expandAll rest shown = [shown] := fun shown hshown =>
            expandAll_of_unmarked fun other hother =>
              hviews view (List.mem_cons_self ..) indent hindent shown hshown other
                (List.mem_cons_of_mem _ hother)
          simp only [Option.map_some, Option.getD_some]
          rw [List.flatMap_congr hrest, List.flatMap_singleton']

end Placeholder

end Text

end KeyboardLayout
