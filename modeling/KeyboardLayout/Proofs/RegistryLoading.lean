import KeyboardLayout.Proofs.BuiltinTables
import KeyboardLayout.Proofs.Catalogs
import KeyboardLayout.Proofs.Tables

/-!
# Loading a registry

What is wrong with the tables of a registry can be told without loading it. `Tables.faults` lists all
of it in the order of the checks: the boards, the dead keys entry by entry, the codes key by key and
the symbols. Loading ends with the first of these faults (`reports_ofTables?`), and comes through
exactly if the tables are `WellFormed`. Then every look-up finds what the tables declare
(`Tables.LoadedAs`); in particular the codes, which are taken down in the order of the sections, are
found again under the numbers of the keys.
-/

namespace KeyboardLayout

/-! ## Checks one after the other -/

section

variable {α β : Type} {faults more : List RegistryError} {x : Except RegistryError α}
  {f : α → Except RegistryError β} {P Q : α → Prop} {R : β → Prop}

/-- The result is the first of the faults, or if there is none, a value as it should be. -/
def Reports (faults : List RegistryError) (result : Except RegistryError α) (P : α → Prop) : Prop :=
  match faults with
  | fault :: _ => result = .error fault
  | [] => ∃ a, result = .ok a ∧ P a

theorem reports_ok {a : α} (h : P a) : Reports [] (.ok a) P :=
  ⟨a, rfl, h⟩

theorem Reports.mono (h : Reports faults x P) (hgoes : ∀ a, P a → Q a) : Reports faults x Q := by
  cases faults with
  | cons fault rest => exact h
  | nil =>
      obtain ⟨a, hx, ha⟩ := h
      exact ⟨a, hx, hgoes a ha⟩

/-- The faults of what comes first come first. -/
theorem Reports.bind (hx : Reports faults x P) (hf : ∀ a, P a → Reports more (f a) R) :
    Reports (faults ++ more) (x >>= f) R := by
  cases faults with
  | cons fault rest =>
      obtain rfl : x = .error fault := hx
      exact rfl
  | nil =>
      obtain ⟨a, rfl, ha⟩ := hx
      exact hf a ha

/-- A check stands before what it lets through. -/
theorem Reports.guard {c : Prop} [Decidable c] {e : RegistryError}
    {g : PUnit → Except RegistryError β} (hc : faults = if c then [e] else [])
    (hg : ¬ c → Reports more (g ⟨⟩) R) :
    Reports (faults ++ more) (if c then throw e >>= g else g ⟨⟩) R := by
  subst hc
  by_cases h : c
  · rw [if_pos h, if_pos h]
    exact rfl
  · rw [if_neg h, if_neg h]
    exact hg h

theorem Reports.eq_error_iff (h : Reports faults x P) (e : RegistryError) :
    x = .error e ↔ faults.head? = some e := by
  cases faults with
  | cons fault rest =>
      obtain rfl : x = .error fault := h
      rw [Except.error.injEq, List.head?_cons, Option.some.injEq]
  | nil =>
      obtain ⟨a, rfl, -⟩ := h
      exact iff_of_false (fun heq => nomatch heq) (fun heq => nomatch heq)

theorem Reports.exists_ok_iff (h : Reports faults x P) : (∃ a, x = .ok a) ↔ faults = [] := by
  cases faults with
  | cons fault rest =>
      obtain rfl : x = .error fault := h
      exact iff_of_false (fun heq => nomatch heq.choose_spec) (fun heq => nomatch heq)
  | nil =>
      obtain ⟨a, rfl, -⟩ := h
      exact iff_of_true ⟨a, rfl⟩ rfl

theorem Reports.of_ok (h : Reports faults x P) {a : α} (hx : x = .ok a) : P a := by
  cases faults with
  | cons fault rest =>
      obtain rfl : x = .error fault := h
      cases hx
  | nil =>
      obtain ⟨b, rfl, hb⟩ := h
      exact Except.ok.inj hx ▸ hb

end

/-! ## Dead keys -/

namespace DeadKeyEntry

variable {entry : DeadKeyEntry} {earlier entries : List DeadKeyEntry} {known : List DeadKey}

/-- The text of a field that must be one character. -/
def textOf (entry : DeadKeyEntry) : CharField → Text
  | .char => entry.char
  | .klc => entry.klc
  | .altSpace => entry.altSpace
  | .altSelf => entry.altSelf

/-- The fields that must be one character, in the order in which they are checked. -/
def charFields : List CharField :=
  [.char, .klc, .altSpace, .altSelf]

/-- The entry by itself declares a dead key. -/
structure WellFormed (entry : DeadKeyEntry) : Prop where
  aligned : entry.base.length = entry.alt.length
  chars : ∀ field, (entry.textOf field).length = 1

def alignmentFaults (entry : DeadKeyEntry) : List RegistryError :=
  if entry.base.length ≠ entry.alt.length then
    [.misaligned entry.name entry.base.length entry.alt.length]
  else []

def fieldFaults (entry : DeadKeyEntry) (field : CharField) : List RegistryError :=
  if (entry.textOf field).length = 1 then []
  else [.notAChar entry.name field (entry.textOf field)]

/-- The marker is that of an entry before. -/
def markerFaults (earlier : List DeadKeyEntry) (entry : DeadKeyEntry) : List RegistryError :=
  match entry.char with
  | [marker] => if entry.char ∈ earlier.map (·.char) then [.duplicateMarker marker] else []
  | _ => []

def ownFaults (entry : DeadKeyEntry) : List RegistryError :=
  entry.alignmentFaults ++ charFields.flatMap entry.fieldFaults

/-- All that is wrong with entries that come behind others. -/
def faultsAfter (earlier : List DeadKeyEntry) : List DeadKeyEntry → List RegistryError
  | [] => []
  | entry :: rest =>
    entry.ownFaults ++ (entry.markerFaults earlier ++ faultsAfter (earlier ++ [entry]) rest)

theorem reports_charOf (entry : DeadKeyEntry) (field : CharField) :
    Reports (entry.fieldFaults field) (entry.charOf field) fun c => entry.textOf field = [c] := by
  have hcharOf : entry.charOf field = match entry.textOf field with
      | [c] => .ok c
      | value => .error (.notAChar entry.name field value) := by
    cases field <;> rfl
  rw [hcharOf, fieldFaults]
  rcases entry.textOf field with _ | ⟨c, _ | ⟨d, rest⟩⟩
  · exact rfl
  · exact reports_ok rfl
  · exact rfl

/-- An entry by itself is checked field by field. -/
theorem reports_deadKey (entry : DeadKeyEntry) :
    Reports entry.ownFaults entry.deadKey fun dk => ofDeadKey dk = entry := by
  have hfields : charFields.flatMap entry.fieldFaults =
      entry.fieldFaults .char ++ (entry.fieldFaults .klc ++
        (entry.fieldFaults .altSpace ++ (entry.fieldFaults .altSelf ++ []))) := rfl
  rw [ownFaults, hfields]
  unfold deadKey
  refine Reports.guard rfl fun _ => ?_
  refine (reports_charOf entry .char).bind fun marker hmarker => ?_
  refine (reports_charOf entry .klc).bind fun glyph hglyph => ?_
  refine (reports_charOf entry .altSpace).bind fun altSpace haltSpace => ?_
  refine (reports_charOf entry .altSelf).bind fun altSelf haltSelf => reports_ok ?_
  obtain ⟨char, name, klc, xkb, altSpace', altSelf', compose, base, alt⟩ := entry
  simp only [textOf] at hmarker hglyph haltSpace haltSelf
  simp only [ofDeadKey, hmarker, hglyph, haltSpace, haltSelf]

theorem markerFaults_ofDeadKey (known : List DeadKey) (dk : DeadKey) :
    (ofDeadKey dk).markerFaults (known.map ofDeadKey) =
      if known.any (·.marker == dk.marker) then [.duplicateMarker dk.marker] else [] := by
  have hmember : (ofDeadKey dk).char ∈ (known.map ofDeadKey).map (·.char) ↔
      known.any (·.marker == dk.marker) = true := by
    simp [ofDeadKey]
  have hfaults : (ofDeadKey dk).markerFaults (known.map ofDeadKey) =
      if (ofDeadKey dk).char ∈ (known.map ofDeadKey).map (·.char) then
        [.duplicateMarker dk.marker] else [] := rfl
  simp only [hfaults, hmember]

/-- Entries are loaded in order up to the first fault. -/
theorem reports_loadAfter (hmarkers : (known.map (·.marker)).Nodup) (entries : List DeadKeyEntry) :
    Reports (faultsAfter (known.map ofDeadKey) entries) (loadAfter known entries) fun loaded =>
      loaded.map ofDeadKey = known.map ofDeadKey ++ entries ∧ (loaded.map (·.marker)).Nodup := by
  induction entries generalizing known with
  | nil => exact reports_ok ⟨(List.append_nil _).symm, hmarkers⟩
  | cons entry rest ih =>
      refine (reports_deadKey entry).bind fun dk hdk => ?_
      subst hdk
      refine Reports.guard (markerFaults_ofDeadKey known dk) fun hnew => ?_
      have hmore : (known ++ [dk]).map ofDeadKey = known.map ofDeadKey ++ [ofDeadKey dk] :=
        List.map_append
      have hnodup : ((known ++ [dk]).map (·.marker)).Nodup := by
        rw [List.map_append, List.map_singleton, ← List.concat_eq_append, List.nodup_concat]
        exact ⟨by simpa using hnew, hmarkers⟩
      rw [← hmore]
      refine (ih hnodup).mono fun loaded hloaded => ?_
      rw [hloaded.1, hmore, List.append_assoc, List.singleton_append]
      exact ⟨rfl, hloaded.2⟩

theorem reports_load (entries : List DeadKeyEntry) :
    Reports (faultsAfter [] entries) (load entries) fun loaded =>
      loaded.map ofDeadKey = entries ∧ (loaded.map (·.marker)).Nodup :=
  @reports_loadAfter [] List.nodup_nil entries

/-! ### Entries without a fault -/

theorem ownFaults_eq_nil_iff : entry.ownFaults = [] ↔ entry.WellFormed := by
  have hfield : ∀ field, entry.fieldFaults field = [] ↔ (entry.textOf field).length = 1 := by
    intro field
    unfold fieldFaults
    split <;> simp [*]
  have haligned : entry.alignmentFaults = [] ↔ entry.base.length = entry.alt.length := by
    unfold alignmentFaults
    simp
  rw [ownFaults, List.append_eq_nil_iff, haligned, List.flatMap_eq_nil_iff]
  constructor
  · rintro ⟨haligned, hchars⟩
    refine ⟨haligned, fun field => (hfield field).mp (hchars field ?_)⟩
    cases field <;> decide
  · exact fun h => ⟨h.aligned, fun field _ => (hfield field).mpr (h.chars field)⟩

theorem WellFormed.markerFaults_eq_nil_iff (h : entry.WellFormed) :
    entry.markerFaults earlier = [] ↔ entry.char ∉ earlier.map (·.char) := by
  obtain ⟨marker, hmarker⟩ := List.length_eq_one_iff.mp (h.chars .char)
  have hchar : entry.char = [marker] := hmarker
  unfold markerFaults
  rw [hchar]
  simp

/-- Entries behind others have no fault exactly if each of them is well-formed and all markers
differ. -/
theorem faultsAfter_eq_nil_iff (hearlier : (earlier.map (·.char)).Nodup) :
    faultsAfter earlier entries = [] ↔
      (∀ entry ∈ entries, entry.WellFormed) ∧ ((earlier ++ entries).map (·.char)).Nodup := by
  induction entries generalizing earlier with
  | nil => simpa [faultsAfter] using hearlier
  | cons entry rest ih =>
      have hsnoc : ((earlier ++ [entry]).map (·.char)).Nodup ↔
          entry.char ∉ earlier.map (·.char) := by
        rw [List.map_append, List.map_singleton, List.nodup_append_comm, List.singleton_append,
          List.nodup_cons]
        exact and_iff_left hearlier
      rw [faultsAfter, List.append_eq_nil_iff, List.append_eq_nil_iff, ownFaults_eq_nil_iff,
        List.forall_mem_cons, and_assoc, and_congr_right_iff]
      intro hentry
      rw [hentry.markerFaults_eq_nil_iff, ← hsnoc]
      constructor
      · rintro ⟨hmarker, hrest⟩
        obtain ⟨hwell, hnodup⟩ := (ih hmarker).mp hrest
        refine ⟨hwell, ?_⟩
        rwa [List.append_assoc, List.singleton_append] at hnodup
      · rintro ⟨hwell, hnodup⟩
        rw [← List.singleton_append, ← List.append_assoc] at hnodup
        have hmarker : ((earlier ++ [entry]).map (·.char)).Nodup := by
          rw [List.map_append] at hnodup
          exact (List.nodup_append.mp hnodup).1
        exact ⟨hmarker, (ih hmarker).mpr ⟨hwell, hnodup⟩⟩

theorem faults_eq_nil_iff :
    faultsAfter [] entries = [] ↔
      (∀ entry ∈ entries, entry.WellFormed) ∧ (entries.map (·.char)).Nodup :=
  faultsAfter_eq_nil_iff List.nodup_nil

/-- The only entry with a marker, if there is one, is that of the dead key that is found. -/
theorem filter_char_eq (hmarkers : (known.map (·.marker)).Nodup) (marker : Char) :
    (known.map ofDeadKey).filter (·.char = [marker]) =
      (known.find? (·.marker == marker)).toList.map ofDeadKey := by
  induction known with
  | nil => rfl
  | cons dk rest ih =>
      rw [List.map_cons, List.nodup_cons] at hmarkers
      rw [List.map_cons, List.filter_cons, List.find?_cons, ih hmarkers.2]
      by_cases h : dk.marker = marker
      · subst h
        have hnone : rest.find? (·.marker == dk.marker) = none := by
          refine List.find?_eq_none.mpr fun other hother heq => hmarkers.1 ?_
          rw [← beq_iff_eq.mp heq]
          exact List.mem_map_of_mem hother
        rw [hnone]
        simp [ofDeadKey]
      · simp [ofDeadKey, h, beq_false_of_ne h]

end DeadKeyEntry

/-! ## Key codes -/

namespace Registry

variable {rows : List (Key × KeyCodes)} {codes : Key → KeyCodes}

/-- The codes of all keys, taken down in their order up to the first key that has none. -/
def listCodes (table : Table Key KeyCodes) : Except RegistryError (List KeyCodes) :=
  Key.all.mapM fun key => (table.get? key).elim (.error (.missingCodes key)) .ok

/-- The keys without a row. -/
def codeFaults (rows : List (Key × KeyCodes)) : List RegistryError :=
  (Key.all.filter fun key => key ∉ rows.map Prod.fst).map .missingCodes

theorem codeFaults_eq_nil_iff : codeFaults rows = [] ↔ ∀ key, key ∈ rows.map Prod.fst := by
  rw [codeFaults, List.map_eq_nil_iff, List.filter_eq_nil_iff]
  refine ⟨fun h key => ?_, fun h key _ => ?_⟩
  · simpa using h key (Key.mem_all key)
  · simpa using h key

theorem isSome_get?_ofRows (key : Key) (rows : List (Key × KeyCodes)) :
    ((Table.ofRows rows).get? key).isSome = true ↔ key ∈ rows.map Prod.fst := by
  rw [Table.get?_ofRows, Table.isSome_lookup_reverse, List.lookup_isSome_iff, List.mem_map]
  refine exists_congr fun row => and_congr_right fun _ => ?_
  rw [beq_iff_eq, eq_comm]

/-- The codes of a key are those of its last row. -/
theorem exists_of_get?_ofRows {key : Key} {value : KeyCodes}
    (h : (Table.ofRows rows).get? key = some value) :
    ∃ before behind, rows = before ++ (key, value) :: behind ∧ key ∉ behind.map Prod.fst := by
  rw [Table.get?_ofRows] at h
  obtain ⟨behind, before, hrows, hbehind⟩ := List.lookup_eq_some_iff.mp h
  refine ⟨before.reverse, behind.reverse, ?_, fun hmem => ?_⟩
  · rw [← List.reverse_reverse rows, hrows]
    simp
  · obtain ⟨row, hrow, hkey⟩ := List.mem_map.mp hmem
    have hne := hbehind row (List.mem_reverse.mp hrow)
    simp [hkey] at hne

theorem reports_codesOf (rows : List (Key × KeyCodes)) :
    Reports (codeFaults rows) (codesOf (Table.ofRows rows)) fun codes =>
      ∀ key, (Table.ofRows rows).get? key = some (codes key) := by
  unfold codesOf
  split
  · rename_i hall
    have hnone : codeFaults rows = [] := codeFaults_eq_nil_iff.mpr fun key =>
      (isSome_get?_ofRows key rows).mp (hall key (Key.mem_all key))
    rw [hnone]
    exact reports_ok fun key => (Option.some_get _).symm
  · rename_i hsome
    have hfirst : (codeFaults rows).head? =
        (Key.all.find? fun key => ((Table.ofRows rows).get? key).isNone).map .missingCodes := by
      rw [codeFaults, List.head?_map, List.head?_filter]
      refine congrArg _ (congrArg (List.find? · Key.all) (funext fun key => ?_))
      have hiff := isSome_get?_ofRows key rows
      cases hget : (Table.ofRows rows).get? key with
      | none => simp_all
      | some value => simp_all
    cases hfind : Key.all.find? fun key => ((Table.ofRows rows).get? key).isNone with
    | none =>
        refine absurd (fun key hkey => ?_) hsome
        have hkept := List.find?_eq_none.mp hfind key hkey
        rw [Option.isNone_iff_eq_none] at hkept
        exact Option.isSome_iff_ne_none.mpr hkept
    | some key =>
        rw [hfind, Option.map_some] at hfirst
        obtain ⟨rest, hrest⟩ := List.head?_eq_some_iff.mp hfirst
        rw [hrest]
        exact rfl

/-- Taking down the codes in order gives every key the same codes. -/
theorem listCodes_eq {table : Table Key KeyCodes}
    (h : ∀ key, table.get? key = some (codes key)) :
    listCodes table = .ok (Key.all.map codes) := by
  have hcodes : (fun key => (table.get? key).elim (.error (.missingCodes key)) .ok) =
      fun key => (pure (codes key) : Except RegistryError KeyCodes) := by
    funext key
    rw [h]
    rfl
  rw [listCodes, hcodes, List.mapM_pure]
  rfl

theorem getElem?_map_all (codes : Key → KeyCodes) (key : Key) :
    (Key.all.map codes)[key.index.val]? = some (codes key) := by
  rw [List.getElem?_map, Key.all_getElem]
  rfl

end Registry

/-! ## Tables -/

namespace Tables

variable {tables : Tables}

def missing {α : Type} (file : TableFile) : Option α → List RegistryError
  | some _ => []
  | none => [.malformed file]

/-- All that is wrong with the tables, in the order of the checks. -/
def faults (tables : Tables) : List RegistryError :=
  missing .geometry tables.geometries
    ++ (missing .deadKeys tables.deadKeys
    ++ ((tables.deadKeys.elim [] (DeadKeyEntry.faultsAfter []))
    ++ (missing .keyCodes tables.keyCodes
    ++ (tables.keyCodes.elim [] Registry.codeFaults
    ++ missing .symbols tables.symbols))))

/-- All tables are there, the entries of the dead keys are well-formed and have different markers,
and every key has a row of codes. -/
structure WellFormed (tables : Tables) : Prop where
  geometries : tables.geometries.isSome
  deadKeys : ∃ entries, tables.deadKeys = some entries
    ∧ (∀ entry ∈ entries, entry.WellFormed) ∧ (entries.map (·.char)).Nodup
  keyCodes : ∃ rows, tables.keyCodes = some rows ∧ ∀ key, key ∈ rows.map Prod.fst
  symbols : tables.symbols.isSome

/-- The registry finds what the tables declare. -/
structure LoadedAs (tables : Tables) (registry : Registry) : Prop where
  /-- Every name has the board that was declared last under it. -/
  geometries : ∃ boards, tables.geometries = some boards ∧
    ∀ name, registry.geometries.find? (·.name == name) = Registry.declared? boards name
  /-- The dead keys are those of the entries, in their order, and a marker finds the only entry that
  has it. -/
  deadKeys : ∃ entries, tables.deadKeys = some entries
    ∧ registry.deadKeys.map DeadKeyEntry.ofDeadKey = entries
    ∧ ∀ marker, entries.filter (·.char = [marker]) =
        (registry.deadKey? marker).toList.map DeadKeyEntry.ofDeadKey
  /-- The codes of a key are those of its last row, and have the number of the key in the list of all
  codes. -/
  keyCodes : ∃ rows codes, tables.keyCodes = some rows
    ∧ Registry.listCodes (Table.ofRows rows) = .ok codes ∧ codes.length = 48
    ∧ ∀ key, codes[key.index.val]? = some (registry.keyCodes key)
        ∧ ∃ before behind, rows = before ++ (key, registry.keyCodes key) :: behind
          ∧ key ∉ behind.map Prod.fst
  symbols : ∃ symbols, tables.symbols = some symbols ∧
    ∀ c, registry.xkbName? c = symbols.xkb.reverse.lookup c
      ∧ (registry.isKlcLiteral c = true ↔ c ∈ symbols.klc)

theorem missing_eq_nil_iff {α : Type} {file : TableFile} {table : Option α} :
    missing file table = [] ↔ table.isSome = true := by
  cases table <;> simp [missing]

theorem faults_eq_nil_iff : tables.faults = [] ↔ tables.WellFormed := by
  simp only [faults, List.append_eq_nil_iff, missing_eq_nil_iff]
  constructor
  · rintro ⟨hboards, hentries, hdeadKeys, hrows, hcodes, hsymbols⟩
    obtain ⟨entries, hentries⟩ := Option.isSome_iff_exists.mp hentries
    obtain ⟨rows, hrows⟩ := Option.isSome_iff_exists.mp hrows
    rw [hentries] at hdeadKeys
    rw [hrows] at hcodes
    exact ⟨hboards,
      ⟨entries, hentries, DeadKeyEntry.faults_eq_nil_iff.mp hdeadKeys⟩,
      ⟨rows, hrows, Registry.codeFaults_eq_nil_iff.mp hcodes⟩, hsymbols⟩
  · rintro ⟨hboards, ⟨entries, hentries, hdeadKeys⟩, ⟨rows, hrows, hcodes⟩, hsymbols⟩
    rw [hentries, hrows]
    exact ⟨hboards, rfl, DeadKeyEntry.faults_eq_nil_iff.mpr hdeadKeys, rfl,
      Registry.codeFaults_eq_nil_iff.mpr hcodes, hsymbols⟩

end Tables

namespace Registry

variable {tables : Tables}

theorem reports_require {α : Type} (file : TableFile) (table : Option α) :
    Reports (Tables.missing file table) (require file table) fun a => table = some a := by
  cases table with
  | none => exact rfl
  | some a => exact reports_ok rfl

/-- Loading ends with the first fault of the tables. -/
theorem reports_ofTables? (tables : Tables) :
    Reports tables.faults (ofTables? tables) tables.LoadedAs := by
  refine (reports_require .geometry tables.geometries).bind fun boards hboards => ?_
  refine (reports_require .deadKeys tables.deadKeys).bind fun entries hentries => ?_
  rw [hentries]
  refine (DeadKeyEntry.reports_load entries).bind fun deadKeys ⟨hdeadKeys, hmarkers⟩ => ?_
  refine (reports_require .keyCodes tables.keyCodes).bind fun rows hrows => ?_
  rw [hrows]
  refine (reports_codesOf rows).bind fun codes hcodes => ?_
  rw [← List.append_nil (Tables.missing .symbols tables.symbols)]
  refine (reports_require .symbols tables.symbols).bind fun symbols hsymbols => reports_ok ?_
  obtain rfl : deadKeys.map DeadKeyEntry.ofDeadKey = entries := hdeadKeys
  exact {
    geometries := ⟨boards, hboards, fun name => by
      rw [find?_exact_addGeometries, List.find?_nil, Option.or_none]⟩
    deadKeys := ⟨_, hentries, rfl, DeadKeyEntry.filter_char_eq hmarkers⟩
    keyCodes := ⟨rows, _, hrows, listCodes_eq hcodes, rfl, fun key =>
      ⟨getElem?_map_all codes key, exists_of_get?_ofRows (hcodes key)⟩⟩
    symbols := ⟨symbols, hsymbols, fun c =>
      ⟨Table.get?_ofRows c symbols.xkb, List.contains_iff_mem⟩⟩
  }

/-- **Loading tables.** Tables are loaded exactly if they are well-formed, and otherwise refused for
the first of their faults. The registry that is loaded finds what they declare. -/
theorem ofTables?_accepts_wellFormed (tables : Tables) :
    ((∃ registry, ofTables? tables = .ok registry) ↔ tables.WellFormed)
      ∧ (∀ e, ofTables? tables = .error e ↔ tables.faults.head? = some e)
      ∧ ∀ registry, ofTables? tables = .ok registry → tables.LoadedAs registry :=
  have h := reports_ofTables? tables
  ⟨h.exists_ok_iff.trans Tables.faults_eq_nil_iff, h.eq_error_iff, fun _ => h.of_ok⟩

/-- The tables of a registry are well-formed if its dead keys have aligned columns and different
markers. -/
theorem wellFormed_tables {registry : Registry}
    (haligned : ∀ dk ∈ registry.deadKeys, dk.base.length = dk.alt.length)
    (hmarkers : (registry.deadKeys.map (·.marker)).Nodup) : registry.tables.WellFormed where
  geometries := rfl
  deadKeys := by
    refine ⟨_, rfl, fun entry hentry => ?_, ?_⟩
    · obtain ⟨dk, hdk, rfl⟩ := List.mem_map.mp hentry
      exact ⟨haligned dk hdk, fun field => by cases field <;> rfl⟩
    · have hchars : (registry.deadKeys.map DeadKeyEntry.ofDeadKey).map (·.char) =
          (registry.deadKeys.map (·.marker)).map ([·]) := by
        rw [List.map_map, List.map_map]
        rfl
      rw [hchars]
      exact hmarkers.map fun a b hab => List.singleton_inj.mp hab
  keyCodes := by
    refine ⟨_, rfl, fun key => ?_⟩
    rw [List.map_map]
    exact List.mem_map.mpr ⟨key, Key.mem_all key, rfl⟩
  symbols := rfl

/-- The built-in tables are loaded. With a dead key declared twice, once without its `alt` column,
they are refused for the columns. -/
theorem ofTables?_accepts_builtin :
    (∃ registry, ofTables? builtin.tables = .ok registry ∧ builtin.tables.LoadedAs registry)
      ∧ ofTables? { builtin.tables with
          deadKeys := some [⟨['~'], ['a'], ['~'], [], ['~'], ['~'], .table, ['n'], ['ñ']⟩,
            ⟨['~'], ['b'], ['~'], [], ['~'], ['~'], .table, ['n'], []⟩] } =
        .error (.misaligned ['b'] 1 0) := by
  have hbuiltin : builtin.tables.WellFormed := by
    refine wellFormed_tables ?_ ?_ <;> rw [builtin_deadKeys] <;> decide
  obtain ⟨haccepted, -, hloaded⟩ := ofTables?_accepts_wellFormed builtin.tables
  obtain ⟨registry, hregistry⟩ := haccepted.mpr hbuiltin
  exact ⟨⟨registry, hregistry, hloaded registry hregistry⟩,
    ((ofTables?_accepts_wellFormed _).2.1 _).mpr rfl⟩

end Registry

end KeyboardLayout
