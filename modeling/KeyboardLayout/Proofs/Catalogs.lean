import KeyboardLayout.Registry.Source

/-!
# Catalogs of boards

A catalog writes its boards under their exact names: one that is known takes the new board in its
place, and a new one comes last. A look-up takes the first board whose name matches but for the case
of ASCII letters. So a look-up in the extended registry first finds a spelling of the name among the
old and the new names (`find?_names_addGeometries`), and then the board that was written last under
that very spelling (`find?_exact_addGeometries`). A name of the catalog finds its board exactly if no
other spelling of it comes before (`geometry?_withCatalog_iff`).
-/

namespace KeyboardLayout

open Yaml

namespace Registry

variable {registry extended : Registry} {catalog : List Geometry} {t : Text}

/-- The first of the names that matches but for the case of ASCII letters. -/
def spelling? (names : List Text) (name : Text) : Option Text :=
  names.find? (·.eqIgnoringCase name)

/-- The board that a catalog declares under the exact name: of several, the last one. -/
def declared? (catalog : List Geometry) (name : Text) : Option Geometry :=
  catalog.findRev? (·.name == name)

theorem name_of_declared? {name : Text} {board : Geometry}
    (h : declared? catalog name = some board) : board.name = name := by
  rw [declared?, List.findRev?_eq_find?_reverse] at h
  simpa using List.find?_some h

/-! ## Names and boards -/

/-- The first board whose name passes is the first one of that exact name. -/
theorem find?_name (p : Text → Bool) (boards : List Geometry) :
    boards.find? (fun board => p board.name) =
      ((boards.map (·.name)).find? p).bind fun name => boards.find? (·.name == name) := by
  induction boards with
  | nil => rfl
  | cons board rest ih =>
      rw [List.map_cons, List.find?_cons, List.find?_cons]
      cases hboard : p board.name with
      | true => simp
      | false =>
          rw [ih]
          refine Option.bind_congr fun name hname => ?_
          have hne : board.name ≠ name := by
            rintro rfl
            rw [List.find?_some hname] at hboard
            cases hboard
          rw [List.find?_cons_of_neg (by simpa using hne)]

theorem find?_names_putGeometry (p : Text → Bool) (board : Geometry) (known : List Geometry) :
    ((putGeometry board known).map (·.name)).find? p =
      (known.map (·.name) ++ [board.name]).find? p := by
  induction known with
  | nil => rfl
  | cons other rest ih =>
      rw [putGeometry]
      split
      · -- The name is there already, so that it is not found anew behind the others.
        rename_i hname
        rw [List.map_cons, List.map_cons, List.cons_append, hname, List.find?_cons,
          List.find?_cons]
        split
        · rfl
        · rename_i hp
          rw [List.find?_append, List.find?_singleton, hp]
          simp
      · rw [List.map_cons, List.map_cons, List.cons_append, List.find?_cons, List.find?_cons, ih]

/-- Names are found in the order in which they were written first. -/
theorem find?_names_addGeometries (p : Text → Bool) (known catalog : List Geometry) :
    ((addGeometries known catalog).map (·.name)).find? p =
      (known.map (·.name) ++ catalog.map (·.name)).find? p := by
  induction catalog generalizing known with
  | nil => rw [List.map_nil, List.append_nil, addGeometries, List.foldl_nil]
  | cons board rest ih =>
      have hrest := ih (putGeometry board known)
      rw [addGeometries, List.foldl_cons, ← addGeometries, hrest, List.find?_append,
        find?_names_putGeometry, ← List.find?_append, List.append_assoc, List.map_cons,
        List.singleton_append]

theorem find?_exact_putGeometry (board : Geometry) (known : List Geometry) (name : Text) :
    (putGeometry board known).find? (·.name == name) =
      if board.name = name then some board else known.find? (·.name == name) := by
  induction known with
  | nil => grind [putGeometry]
  | cons other rest ih => grind [putGeometry]

/-- An exact name has the board that was written last. -/
theorem find?_exact_addGeometries (known catalog : List Geometry) (name : Text) :
    (addGeometries known catalog).find? (·.name == name) =
      (declared? catalog name).or (known.find? (·.name == name)) := by
  induction catalog generalizing known with
  | nil => rfl
  | cons board rest ih =>
      have hrest := ih (putGeometry board known)
      rw [addGeometries, List.foldl_cons, ← addGeometries, hrest, find?_exact_putGeometry]
      unfold declared?
      rw [List.findRev?]
      cases List.findRev? (·.name == name) rest with
      | some later => rfl
      | none => grind

/-! ## Look-ups -/

/-- A look-up finds the first spelling of the name, then the board written last under it. -/
theorem geometry?_withGeometries (registry : Registry) (catalog : List Geometry) (name : Text) :
    geometry? (registry.withGeometries catalog) name =
      (spelling? (registry.geometryNames ++ catalog.map (·.name)) name).bind fun found =>
        (declared? catalog found).or (registry.geometries.find? (·.name == found)) := by
  unfold geometry? withGeometries
  rw [find?_name (·.eqIgnoringCase name), find?_names_addGeometries]
  exact Option.bind_congr fun found _ => find?_exact_addGeometries _ catalog found

theorem withCatalog_eq_ok_iff :
    registry.withCatalog t = .ok extended ↔
      ∃ catalog, Decoder.ofText? Source.catalog t = some catalog
        ∧ registry.withGeometries catalog = extended := by
  unfold withCatalog
  cases Decoder.ofText? Source.catalog t with
  | none => exact iff_of_false (fun h => nomatch h) (fun ⟨_, h, _⟩ => nomatch h)
  | some catalog => simp [require, bind, Except.bind, pure, Except.pure]

/-- A catalog leaves the look-up of all names alone that none of its own matches. -/
theorem geometry?_withGeometries_of_unmatched {name : Text}
    (h : ∀ board ∈ catalog, board.name.eqIgnoringCase name = false) :
    geometry? (registry.withGeometries catalog) name = registry.geometry? name := by
  have hnames : (catalog.map (·.name)).find? (·.eqIgnoringCase name) = none := by
    simpa using h
  rw [geometry?_withGeometries, spelling?, List.find?_append, hnames, Option.or_none, geometry?,
    find?_name (·.eqIgnoringCase name)]
  refine Option.bind_congr fun found hfound => ?_
  have hother : declared? catalog found = none := by
    rw [declared?, List.findRev?_eq_find?_reverse, List.find?_eq_none]
    intro board hboard
    have hmatches := List.find?_some hfound
    have hunmatched := h board (List.mem_reverse.mp hboard)
    rw [beq_iff_eq]
    rintro rfl
    rw [hmatches] at hunmatched
    cases hunmatched
  rw [hother, Option.none_or]

/-- The name of a board that a catalog declares finds it exactly if it is the first spelling. -/
theorem geometry?_withGeometries_iff {name : Text} {board : Geometry}
    (h : declared? catalog name = some board) :
    geometry? (registry.withGeometries catalog) name = some board ↔
      spelling? (registry.geometryNames ++ catalog.map (·.name)) name = some name := by
  rw [geometry?_withGeometries, Option.bind_eq_some_iff]
  constructor
  · rintro ⟨found, hspelling, hfound⟩
    -- The board that is found has the spelling for its name.
    have hname : board.name = found := by
      rcases Option.or_eq_some_iff.mp hfound with hnew | ⟨-, hold⟩
      · exact name_of_declared? hnew
      · simpa using List.find?_some hold
    rw [← hname, name_of_declared? h] at hspelling
    exact hspelling
  · exact fun hspelling => ⟨name, hspelling, by rw [h, Option.some_or]⟩

/-- **Adding and replacing boards.** A name that matches no name of an accepted catalog is looked up
as before. The name of a board of the catalog finds that board exactly if no other spelling of the
name, in the registry or in the catalog, comes before it. -/
theorem geometry?_withCatalog_iff (h : registry.withCatalog t = .ok extended) :
    ∃ catalog, Decoder.ofText? Source.catalog t = some catalog
      ∧ (∀ name, (∀ board ∈ catalog, board.name.eqIgnoringCase name = false) →
          extended.geometry? name = registry.geometry? name)
      ∧ ∀ name board, declared? catalog name = some board →
          (extended.geometry? name = some board ↔
            spelling? (registry.geometryNames ++ catalog.map (·.name)) name = some name) := by
  obtain ⟨catalog, hcatalog, rfl⟩ := withCatalog_eq_ok_iff.mp h
  exact ⟨catalog, hcatalog, fun _ => geometry?_withGeometries_of_unmatched,
    fun _ _ => geometry?_withGeometries_iff⟩

/-- The text of a catalog whose boards have no keys. -/
def bareCatalog (names : List Text) : Text :=
  names.flatMap (· ++ ":\n  template: []\n  rows: []\n".toList)

/-- A catalog that replaces a built-in board and adds another one. -/
theorem geometry?_withCatalog_mini :
    ∃ extended,
      Registry.builtin.withCatalog (bareCatalog ["MINI".toList, "ISO".toList]) = .ok extended
        ∧ extended.geometry? "MINI".toList = some ⟨"MINI".toList, [], []⟩
        ∧ extended.geometry? "ISO".toList = some ⟨"ISO".toList, [], []⟩
        ∧ extended.geometry? "ergo".toList = Registry.builtin.geometry? "ergo".toList := by
  have hdecode : Decoder.ofText? Source.catalog (bareCatalog ["MINI".toList, "ISO".toList]) =
      some [⟨"MINI".toList, [], []⟩, ⟨"ISO".toList, [], []⟩] := by
    decide +kernel
  have h : Registry.builtin.withCatalog _ = .ok _ :=
    withCatalog_eq_ok_iff.mpr ⟨_, hdecode, rfl⟩
  obtain ⟨catalog, hcatalog, hkept, hdeclared⟩ := geometry?_withCatalog_iff h
  obtain rfl := Option.some.inj (hdecode.symm.trans hcatalog)
  exact ⟨_, h, (hdeclared _ _ rfl).mpr (by decide), (hdeclared _ _ rfl).mpr (by decide),
    hkept _ (by decide)⟩

/-- A board that is called like a built-in one but for the case is not found under its own name,
which finds the built-in board. -/
theorem geometry?_withCatalog_ne :
    ∃ extended, Registry.builtin.withCatalog (bareCatalog ["iso".toList]) = .ok extended
      ∧ Decoder.ofText? Source.catalog (bareCatalog ["iso".toList]) =
        some [⟨"iso".toList, [], []⟩]
      ∧ extended.geometry? "iso".toList ≠ some ⟨"iso".toList, [], []⟩
      ∧ (extended.geometry? "iso".toList).map (·.name) = some "ISO".toList := by
  have hdecode : Decoder.ofText? Source.catalog (bareCatalog ["iso".toList]) =
      some [⟨"iso".toList, [], []⟩] := by
    decide +kernel
  refine ⟨_, withCatalog_eq_ok_iff.mpr ⟨_, hdecode, rfl⟩, hdecode, ?_, ?_⟩
  · rw [ne_eq, geometry?_withGeometries_iff rfl]
    decide
  · decide

end Registry

end KeyboardLayout
