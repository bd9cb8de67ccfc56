import KeyboardLayout.Proofs.InertLines

/-!
# Frames filled line by line

A frame is replaced line by line: a line that ends with the marker of a view gives way to the lines
of the view, and in any other line the tokens are replaced (`composed`). Views do not interfere with
each other or with the tokens as long as they are loose (`insertTokens_insertViews`). Their
marks are padded as in a drawing, and wherever a view has a mark this shows in the text
(`length_composed_lt`).
-/

namespace KeyboardLayout

namespace Text.Placeholder

variable {names : List Text} {indent line : Text} {lines : List Text}
  {views : List (Text × List Text)} {tokens : List (Text × Text)}

/-! ## Frames -/

/-- The tokens of the line can be read, and it holds no marker but at its end, behind a text that
has no part in any other. -/
structure Framed (names : List Text) (line : Text) : Prop where
  feed : '\n' ∉ line
  tokened : Tokened line
  marked : ∀ name ∈ names, lastMarker? (marker name) line =
    (line.dropSuffix? (marker name)).map (·, [])
  quiet : ∀ name ∈ names, ∀ indent ∈ line.dropSuffix? (marker name), Quiet indent

/-- What makes a line framed, as far as it takes evaluation to see it. -/
def Checked (names : List Text) (line : Text) : Prop :=
  Quiet line ∨ '\n' ∉ line ∧ (Tokenized (partsOf line) ∧ textOf (partsOf line) = line)
    ∧ ∀ name ∈ names, lastMarker? (marker name) line = (line.dropSuffix? (marker name)).map (·, [])
      ∧ ∀ indent ∈ line.dropSuffix? (marker name), Quiet indent

instance (names : List Text) (line : Text) : Decidable (Checked names line) :=
  inferInstanceAs (Decidable (_ ∨ _))

theorem Checked.framed (h : Checked names line) : Framed names line := by
  rcases h with hquiet | ⟨hfeed, htokens, hmarkers⟩
  · have hinert := hquiet.verbatim.toInert
    have hnone : ∀ name, line.dropSuffix? (marker name) = none := by
      intro name
      cases hdropped : line.dropSuffix? (marker name) with
      | none => rfl
      | some indent =>
          have hcolon : ':' ∈ line := by
            obtain ⟨mark, rfl, hmark⟩ := List.dropSuffix?_eq_some_iff.mp hdropped
            rw [eq_of_beq hmark]
            exact List.mem_append_right _ (List.mem_append_left _ (by decide))
          exact absurd (by decide) (hquiet ':' hcolon).1
    refine ⟨hinert.feed, hinert.loose.plain.tokened, fun name _ => ?_,
      fun name _ indent hindent => ?_⟩
    · rw [lastMarker?_of_markerless hinert.loose.markerless, hnone]
      rfl
    · rw [hnone] at hindent
      cases hindent
  · exact ⟨hfeed, tokened_of_partsOf htokens, fun name hname => (hmarkers name hname).1,
      fun name hname => (hmarkers name hname).2⟩

/-- The view with its marks padded. -/
def padded (view : Text × List Text) : Text × List Text :=
  (view.1, view.2.map splitMarks)

theorem padded_eq_self {view : Text × List Text} (h : ∀ line ∈ view.2, Verbatim line) :
    padded view = view := by
  have hlines : ∀ line ∈ view.2, splitMarks line = id line := fun line hline =>
    (h line hline).splitMarks
  rw [padded, List.map_congr_left hlines, List.map_id]

theorem map_padded_eq_self (h : ∀ view ∈ views, ∀ line ∈ view.2, Verbatim line) :
    views.map padded = views := by
  have hviews : ∀ view ∈ views, padded view = id view := fun view hview =>
    padded_eq_self (h view hview)
  rw [List.map_congr_left hviews, List.map_id]

theorem map_fst_map_padded (h : views.map Prod.fst = names) :
    (views.map padded).map Prod.fst = names := by
  rw [List.map_map]
  exact h

/-- The lines with each line that ends with the marker of a view given way to the lines of the view,
and with the tokens of all others replaced. -/
def composed (lines : List Text) (views : List (Text × List Text))
    (tokens : List (Text × Text)) : Text :=
  unlines (lines.flatMap fun line => (placed? views line).getD [Driver.insertTokens tokens line])

theorem loose_shownLines (hindent : Quiet indent) (h : ∀ line ∈ lines, Loose line) :
    ∀ shown ∈ shownLines indent lines, Loose shown := by
  intro shown hshown
  unfold shownLines at hshown
  split at hshown
  · rw [List.mem_singleton.mp hshown]
    exact List.isChain_nil
  · obtain ⟨line, hline, rfl⟩ := List.mem_map.mp hshown
    unfold indented
    split
    · exact List.isChain_nil
    · exact hindent.verbatim.loose.append (h line hline) (Or.inl hindent.leads)

theorem loose_padded (h : ∀ view ∈ views, ∀ line ∈ view.2, Loose line) :
    ∀ view ∈ views.map padded, ∀ line ∈ view.2, Loose line := by
  intro view hview line hline
  obtain ⟨old, hold, rfl⟩ := List.mem_map.mp hview
  obtain ⟨oldLine, holdLine, rfl⟩ := List.mem_map.mp hline
  exact (h old hold oldLine holdLine).splitMarks

theorem exists_of_placed? {shown : List Text} (h : placed? views line = some shown) :
    ∃ view ∈ views, ∃ indent ∈ line.dropSuffix? (marker view.1),
      shownLines indent view.2 = shown := by
  obtain ⟨view, hview, hplaced⟩ := List.exists_of_findSome?_eq_some h
  obtain ⟨indent, hindent, rfl⟩ := Option.map_eq_some_iff.mp hplaced
  exact ⟨view, hview, indent, hindent, rfl⟩

/-- Something always stands for a line. -/
theorem getD_placed?_ne_nil (views : List (Text × List Text)) (line kept : Text) :
    (placed? views line).getD [kept] ≠ [] := by
  cases hplaced : placed? views line with
  | none => exact List.cons_ne_nil _ _
  | some shown =>
      obtain ⟨view, -, indent, -, rfl⟩ := exists_of_placed? hplaced
      exact shownLines_ne_nil indent view.2

theorem placed?_eq_none (h : ∀ name ∈ views.map Prod.fst, line.dropSuffix? (marker name) = none) :
    placed? views line = none := by
  refine List.findSome?_eq_none_iff.mpr fun view hview => ?_
  rw [h view.1 (List.mem_map_of_mem hview), Option.map_none]

section Framed

variable (hline : Framed (views.map Prod.fst) line)
  (hviews : ∀ view ∈ views, ∀ line ∈ view.2, Loose line)
include hline hviews

theorem loose_shownLines_of_framed {view : Text × List Text} (hview : view ∈ views)
    (hindent : line.dropSuffix? (marker view.1) = some indent) :
    ∀ shown ∈ shownLines indent (view.2.map splitMarks), Loose shown := by
  have hname : view.1 ∈ views.map Prod.fst := List.mem_map_of_mem hview
  refine loose_shownLines (hline.quiet _ hname indent hindent) ?_
  exact loose_padded hviews (padded view) (List.mem_map_of_mem hview)

/-- The views go into a framed line once. -/
theorem fits_of_framed : Fits views line := by
  refine Or.inr ⟨hline.feed, fun view hview => ?_⟩
  unfold expand
  rw [hline.marked _ (List.mem_map_of_mem hview)]
  cases hindent : line.dropSuffix? (marker view.1) with
  | none => exact Or.inl rfl
  | some indent =>
      exact Or.inr fun shown hshown =>
        (loose_shownLines_of_framed hline hviews hview hindent shown hshown).markerless

/-- A framed line gives way to at most one view. -/
theorem expandAll_of_framed :
    expandAll views line = (placed? (views.map padded) line).getD [line] := by
  refine expandAll_eq (fun view hview => hline.marked _ (List.mem_map_of_mem hview)) ?_
  intro view hview indent hindent shown hshown other _
  have hloose := loose_shownLines_of_framed hline hviews hview hindent shown hshown
  exact lastMarker?_of_markerless hloose.markerless other.1

theorem loose_of_placed? {shown : List Text} (h : placed? (views.map padded) line = some shown) :
    ∀ piece ∈ shown, Loose piece := by
  obtain ⟨_, hpadded, indent, hindent, rfl⟩ := exists_of_placed? h
  obtain ⟨view, hview, rfl⟩ := List.mem_map.mp hpadded
  exact loose_shownLines_of_framed hline hviews hview hindent

theorem tokened_of_placed? :
    ∀ piece ∈ (placed? (views.map padded) line).getD [line], Tokened piece := by
  intro piece hpiece
  cases h : placed? (views.map padded) line with
  | none =>
      rw [h, Option.getD_none, List.mem_singleton] at hpiece
      exact hpiece ▸ hline.tokened
  | some shown =>
      rw [h] at hpiece
      exact (loose_of_placed? hline hviews h piece hpiece).plain.tokened

/-- What leaves texts without tokens alone leaves the views alone. -/
theorem map_placed? {f : Text → Text} (hf : ∀ t, Plain t → f t = t) :
    ((placed? (views.map padded) line).getD [line]).map f =
      (placed? (views.map padded) line).getD [f line] := by
  cases h : placed? (views.map padded) line with
  | none => rfl
  | some shown =>
      have hsame : ∀ piece ∈ shown, f piece = id piece := fun piece hpiece =>
        hf piece (loose_of_placed? hline hviews h piece hpiece).plain
      exact (List.map_congr_left hsame).trans (List.map_id shown)

end Framed

/-- Markers of a frame are replaced line by line by the padded views. -/
theorem insertViews_of_framed (hne : lines ≠ [])
    (hlines : ∀ line ∈ lines, Framed (views.map Prod.fst) line)
    (hnames : ∀ view ∈ views, '\n' ∉ marker view.1)
    (hviews : ∀ view ∈ views, ∀ line ∈ view.2, Loose line) :
    Driver.insertViews views (unlines lines) =
      unlines (lines.flatMap fun line => (placed? (views.map padded) line).getD [line]) := by
  have hexpanded : ∀ line ∈ lines,
      expandAll views line = (placed? (views.map padded) line).getD [line] :=
    fun line hline => expandAll_of_framed (hlines line hline) hviews
  rw [insertViews_unlines hnames hne fun line hline => fits_of_framed (hlines line hline) hviews,
    List.flatMap_congr hexpanded]

/-- Markers and tokens of a frame are replaced line by line, the markers by the padded views. -/
theorem insertTokens_insertViews (hne : lines ≠ [])
    (hlines : ∀ line ∈ lines, Framed (views.map Prod.fst) line)
    (hnames : ∀ view ∈ views, '\n' ∉ marker view.1)
    (hviews : ∀ view ∈ views, ∀ line ∈ view.2, Loose line) (htokens : Assignable tokens) :
    Driver.insertTokens tokens (Driver.insertViews views (unlines lines)) =
      composed lines (views.map padded) tokens := by
  have htokened : ∀ piece ∈ lines.flatMap fun line =>
      (placed? (views.map padded) line).getD [line], Tokened piece := by
    intro piece hpiece
    obtain ⟨line, hline, hin⟩ := List.mem_flatMap.mp hpiece
    exact tokened_of_placed? (hlines line hline) hviews piece hin
  rw [insertViews_of_framed hne hlines hnames hviews, insertTokens_unlines htokens htokened,
    composed, List.map_flatMap]
  exact congrArg unlines (List.flatMap_congr fun line hline =>
    map_placed? (hlines line hline) hviews fun _ => insertTokens_of_plain htokens)

/-! ## Padding shows -/

theorem length_splitMarks (t : Text) : (splitMarks t).length = t.length + t.countP isMark := by
  induction t with
  | nil => rfl
  | cons c t ih =>
      rw [splitMarks_cons, List.length_append, List.length_cons, List.countP_cons, ih]
      split <;> simp <;> omega

/-- The characters of the lines, with one more for the end of each. -/
def size : List Text → Nat
  | [] => 0
  | line :: rest => line.length + 1 + size rest

theorem size_append (ps qs : List Text) : size (ps ++ qs) = size ps + size qs := by
  induction ps with
  | nil => exact (Nat.zero_add _).symm
  | cons p ps ih =>
      rw [List.cons_append, size, size, ih]
      omega

theorem length_unlines (h : lines ≠ []) : (unlines lines).length + 1 = size lines := by
  induction lines with
  | nil => exact absurd rfl h
  | cons line rest ih =>
      cases rest with
      | nil => simp [size]
      | cons next rest =>
          have hrest := ih (List.cons_ne_nil next rest)
          simp only [unlines_cons_cons, List.length_append, List.length_cons, size] at hrest ⊢
          omega

theorem size_flatMap_le {f g : Text → List Text}
    (h : ∀ line ∈ lines, size (f line) ≤ size (g line)) :
    size (lines.flatMap f) ≤ size (lines.flatMap g) := by
  induction lines with
  | nil => exact Nat.le_refl _
  | cons line rest ih =>
      rw [List.flatMap_cons, List.flatMap_cons, size_append, size_append]
      exact Nat.add_le_add (h line (List.mem_cons_self ..))
        (ih fun line hline => h line (List.mem_cons_of_mem _ hline))

theorem size_flatMap_lt {f g : Text → List Text}
    (h : ∀ line ∈ lines, size (f line) ≤ size (g line)) (hline : line ∈ lines)
    (hlt : size (f line) < size (g line)) : size (lines.flatMap f) < size (lines.flatMap g) := by
  obtain ⟨before, behind, rfl⟩ := List.append_of_mem hline
  have hbefore := size_flatMap_le fun line hline => h line (List.mem_append_left _ hline)
  have hbehind := size_flatMap_le fun line hline =>
    h line (List.mem_append_right _ (List.mem_cons_of_mem _ hline))
  simp only [List.flatMap_append, List.flatMap_cons, size_append]
  omega

theorem length_indented_splitMarks (indent line : Text) :
    (indented indent (splitMarks line)).length =
      (indented indent line).length + line.countP isMark := by
  unfold indented
  rw [isEmpty_splitMarks]
  split
  · rename_i hempty
    rw [List.isEmpty_iff.mp hempty]
    rfl
  · rw [List.length_append, List.length_append, length_splitMarks, Nat.add_assoc]

theorem size_indented (indent line : Text) :
    size [indented indent (splitMarks line)] =
      size [indented indent line] + line.countP isMark := by
  simp only [size, length_indented_splitMarks]
  omega

theorem size_shownLines_le (indent : Text) (lines : List Text) :
    size (shownLines indent lines) ≤ size (shownLines indent (lines.map splitMarks)) := by
  unfold shownLines
  rw [List.isEmpty_map]
  split
  · exact Nat.le_refl _
  · rw [List.map_map, List.map_eq_flatMap, List.map_eq_flatMap]
    refine size_flatMap_le fun line _ => ?_
    rw [Function.comp_apply, size_indented]
    exact Nat.le_add_right ..

theorem size_shownLines_lt (indent : Text) {c : Char} (hline : line ∈ lines) (hc : c ∈ line)
    (hmark : isMark c = true) :
    size (shownLines indent lines) < size (shownLines indent (lines.map splitMarks)) := by
  have hcount : 0 < line.countP isMark := List.countP_pos_iff.mpr ⟨c, hc, hmark⟩
  have hempty : ¬lines.isEmpty = true := fun h =>
    List.ne_nil_of_mem hline (List.isEmpty_iff.mp h)
  unfold shownLines
  rw [List.isEmpty_map, if_neg hempty, if_neg hempty, List.map_map, List.map_eq_flatMap,
    List.map_eq_flatMap]
  refine size_flatMap_lt (fun line _ => ?_) hline ?_
  · rw [Function.comp_apply, size_indented]
    exact Nat.le_add_right ..
  · rw [Function.comp_apply, size_indented]
    exact Nat.lt_add_of_pos_right hcount

theorem size_placed_le (views : List (Text × List Text)) (line : Text) (kept : List Text) :
    size ((placed? views line).getD kept) ≤
      size ((placed? (views.map padded) line).getD kept) := by
  induction views with
  | nil => exact Nat.le_refl _
  | cons view rest ih =>
      simp only [placed?, List.map_cons, List.findSome?_cons, padded] at ih ⊢
      cases line.dropSuffix? (marker view.1) with
      | none => exact ih
      | some indent => exact size_shownLines_le indent view.2

theorem length_composed (hne : lines ≠ []) :
    (composed lines views tokens).length + 1 = size (lines.flatMap fun line =>
      (placed? views line).getD [Driver.insertTokens tokens line]) := by
  rw [composed, length_unlines]
  obtain ⟨line, rest, rfl⟩ := List.exists_cons_of_ne_nil hne
  rw [List.flatMap_cons]
  exact List.append_ne_nil_of_left_ne_nil (getD_placed?_ne_nil views line _) _

/-- The text is longer if the padding of the views shows in the place of one of them. -/
theorem length_composed_lt {first : List (Text × List Text)} (hline : line ∈ lines)
    (hfirst : placed? first line = none)
    (hlt : size ((placed? views line).getD [Driver.insertTokens tokens line]) <
      size ((placed? (views.map padded) line).getD [Driver.insertTokens tokens line])) :
    (composed lines (first ++ views) tokens).length <
      (composed lines (first ++ views.map padded) tokens).length := by
  have hne := List.ne_nil_of_mem hline
  have happend : ∀ (views : List (Text × List Text)) line,
      placed? (first ++ views) line = (placed? first line).or (placed? views line) :=
    fun views line => List.findSome?_append
  rw [← Nat.add_lt_add_iff_right, length_composed hne, length_composed hne]
  refine size_flatMap_lt (fun line _ => ?_) hline ?_
  · simp only [happend]
    cases placed? first line with
    | none => exact size_placed_le views line _
    | some shown => exact Nat.le_refl _
  · simpa only [happend, hfirst, Option.none_or] using hlt

end Text.Placeholder

end KeyboardLayout
