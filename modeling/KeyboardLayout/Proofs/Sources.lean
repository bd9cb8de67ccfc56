import KeyboardLayout.Proofs.Reachable
import KeyboardLayout.Proofs.Transcripts

/-!
# What a source leaves

A source that is accepted leaves a layout read without a fault from the empty one, which is then
completed. `Layout.Drawn` collects what is known of the layout before its dead keys are completed;
completing changes nothing but the tables of the dead keys.
-/

namespace KeyboardLayout.Layout

variable {layout : Layout} {registry : Registry}

/-! ## Completing -/

@[simp] theorem symbol_complete (key : Key) (level : Level) :
    layout.complete.symbol key level = layout.symbol key level := rfl

@[simp] theorem metadata_complete : layout.complete.metadata = layout.metadata := rfl

@[simp] theorem geometry_complete : layout.complete.geometry = layout.geometry := rfl

@[simp] theorem registry_complete : layout.complete.registry = layout.registry := rfl

@[simp] theorem shownPair_complete (pair : Pair) (key : Key) :
    Drawing.shownPair layout.complete pair key = Drawing.shownPair layout pair key := rfl

/-! ## Reading a source -/

/-- The layout has been read without a fault from the empty one on a board of the registry. -/
structure Drawn (registry : Registry) (layout : Layout) : Prop where
  board : ∃ name, registry.geometry name = .ok layout.geometry
  registry_eq : layout.registry = registry
  orderly : layout.Orderly
  transcribed : Drawing.Transcribed (empty layout.metadata layout.geometry registry)
    ⟨layout, none⟩ layout.geometry.slots

/-- What every drawing of a source keeps, the source keeps. -/
theorem readSource_induction {P : Layout → Prop} (source : Source)
    (hread : ∀ layout lines rows pair, P layout → P (Drawing.read layout lines rows pair).layout)
    (h : P layout) : P (layout.readSource source).layout := by
  refine Drawing.readAll_induction (fun layout block hlayout => ?_) _ h
  unfold Source.readBlock
  split
  · exact hlayout
  · exact Drawing.readAll_induction (fun l pair hl => hread l _ _ pair hl) _ hlayout

/-- A source changes neither what the layout is called nor what it is read with. -/
theorem frame_readSource (layout : Layout) (source : Source) :
    (layout.readSource source).layout.metadata = layout.metadata
      ∧ (layout.readSource source).layout.geometry = layout.geometry
      ∧ (layout.readSource source).layout.registry = layout.registry := by
  refine readSource_induction (P := fun l => l.metadata = layout.metadata
    ∧ l.geometry = layout.geometry ∧ l.registry = layout.registry) source ?_ ⟨rfl, rfl, rfl⟩
  rintro l lines rows pair ⟨hm, hg, hr⟩
  obtain ⟨hm', hg', hr'⟩ := Drawing.frame_read l lines rows pair
  exact ⟨hm'.trans hm, hg'.trans hg, hr'.trans hr⟩

theorem drawn_readSource {name : Text} {metadata : Metadata} {geometry : Geometry}
    (hboard : registry.geometry name = .ok geometry) (source : Source)
    (hok : ((empty metadata geometry registry).readSource source).fault? = none) :
    Drawn registry ((empty metadata geometry registry).readSource source).layout := by
  obtain ⟨hmetadata, hgeometry, hregistry⟩ := frame_readSource (empty metadata geometry registry)
    source
  refine ⟨⟨name, hboard.trans (congrArg Except.ok hgeometry.symm)⟩, hregistry, ?_, ?_⟩
  · exact readSource_induction source (fun _ _ _ _ h => orderly_read h) orderly_empty
  · rw [hmetadata, hgeometry, ← hok]
    exact transcribed_readSource source hok

theorem drawn_of_ofSource {source : Source} (h : ofSource registry source = .ok layout) :
    ∃ drawn, Drawn registry drawn ∧ layout = drawn.complete := by
  simp only [ofSource, bind, Except.bind] at h
  split at h
  · cases h
  · rename_i start hnew
    obtain ⟨geometry, hboard, rfl⟩ := eq_empty_of_new hnew
    split at h
    · cases h
    · rename_i hok
      exact ⟨_, drawn_readSource hboard source hok, (Except.ok.inj h).symm⟩

/-- A layout that a text describes was drawn, then completed. -/
theorem drawn_of_ofText {t : Text} (h : ofText registry t = .ok layout) :
    ∃ drawn, Drawn registry drawn ∧ layout = drawn.complete := by
  unfold ofText at h
  split at h
  · exact drawn_of_ofSource h
  · cases h

/-! ## What a drawn layout shows -/

theorem shownPair_empty (metadata : Metadata) (geometry : Geometry) (pair : Pair) (key : Key) :
    Drawing.shownPair (empty metadata geometry registry) pair key = Drawing.Cell.empty := by
  simp [Drawing.shownPair, Drawing.shown, Drawing.Cell.empty]

/-- On a board without repeated keys a drawn layout is its own transcript. -/
theorem Drawn.readAll_findingOf (h : layout.Drawn registry) (hkeys : layout.geometry.keys.Nodup) :
    (∀ slot ∈ layout.geometry.slots, (Drawing.findingOf layout slot).Sound)
      ∧ Drawing.readAll Drawing.readFinding (empty layout.metadata layout.geometry registry)
          (layout.geometry.slots.map (Drawing.findingOf layout)) = ⟨layout, none⟩ := by
  obtain ⟨findings, hslots, hsound, heq⟩ := h.transcribed
  have hfindings := Drawing.eq_map_findingOf (hslots ▸ Geometry.nodup_slots hkeys)
    (congrArg Drawing.Reading.fault? heq).symm (shownPair_empty _ _)
  rw [← heq, hslots] at hfindings
  refine ⟨fun slot hslot => ?_, by rw [← hfindings, ← heq]⟩
  exact hsound _ (hfindings ▸ List.mem_map_of_mem hslot)

/-- Keys that the board does not have produce nothing. -/
theorem Drawn.shownPair_of_not_mem (h : layout.Drawn registry) {pair : Pair} {key : Key}
    (hkey : key ∉ layout.geometry.keys) :
    Drawing.shownPair layout pair key = Drawing.Cell.empty := by
  obtain ⟨findings, hslots, -, heq⟩ := h.transcribed
  have hslot : (pair, key) ∉ findings.map Drawing.Finding.slot := by
    rw [hslots, Geometry.mem_slots]
    exact hkey
  have := Drawing.shownPair_of_not_mem (congrArg Drawing.Reading.fault? heq).symm hslot
  rw [← heq] at this
  rw [this, shownPair_empty]

/-! ## Sketched sources -/

/-- A drawing of twelve blank lines but for the characters at these lines and columns, as the text
of a block. -/
def sketchBlock (cells : List (Nat × Nat × Char)) : Text :=
  Text.ofLines (cells.foldl (fun lines c => Drawing.setChar lines c.1 c.2.1 c.2.2)
    (List.replicate 12 ('│' :: List.replicate 79 ' '))) "  ".toList

/-- A source text for the ergonomic board that draws little more than some characters. -/
def sketch (base altGr : List (Nat × Nat × Char)) : Text :=
  "geometry: ERGO\nbase: |\n".toList ++ sketchBlock base ++ "\naltgr: |\n".toList ++
    sketchBlock altGr ++ ['\n']

/-- A text that is checked to describe a layout with some property describes one. -/
theorem exists_of_any_toOption (registry : Registry) (t : Text) (P : Layout → Bool)
    (h : (ofText registry t).toOption.any P = true) :
    ∃ layout, ofText registry t = .ok layout ∧ P layout = true := by
  cases hl : ofText registry t with
  | error fault => simp [hl, Except.toOption] at h
  | ok layout => exact ⟨layout, rfl, by simpa [hl, Except.toOption] using h⟩

end KeyboardLayout.Layout
