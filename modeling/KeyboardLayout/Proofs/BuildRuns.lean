import KeyboardLayout.Command.Build
import KeyboardLayout.Proofs.DriverFiles
import KeyboardLayout.Proofs.Journal
import KeyboardLayout.World

/-!
# What a build writes

A build that is not stopped by the disk writes whole layouts: each that it accepts has all its files
written, in order, and a layout file that it refuses has none (`run_all_or_nothing`). Between the
writes of a layout its drivers are rendered. That none of them is left unrendered in the middle is
what the check of the preview board is for: it is all that rendering depends on
(`render_of_validateGeometry`).
-/

namespace KeyboardLayout

variable {config : Config} {layout : Layout}

/-! ## Rendering after the check -/

theorem Config.geometry_of_validateGeometry
    (h : config.validateGeometry Registry.builtin = .ok ()) :
    ∃ board, Registry.builtin.geometry config.options.previewGeometry = .ok board := by
  unfold Config.validateGeometry at h
  split at h
  · rename_i hsome
    obtain ⟨board, hboard⟩ := Option.isSome_iff_exists.mp hsome
    refine ⟨board, ?_⟩
    unfold Registry.geometry Config.options
    rw [hboard]
  · cases h

/-- Once the preview board is known every driver of every layout can be rendered. -/
theorem Driver.render_of_validateGeometry
    (h : config.validateGeometry Registry.builtin = .ok ())
    (hregistry : layout.registry = Registry.builtin) (driver : Driver) :
    ∃ text, driver.render layout config.options = .ok text := by
  obtain ⟨board, hboard⟩ := Config.geometry_of_validateGeometry h
  obtain ⟨previews, hpreviews, -⟩ := exists_previews hregistry hboard
  exact ⟨_, render_of_previews hpreviews driver⟩

namespace Command

variable {directory path : Path}

theorem registry_of_layoutOf {content : Except ReadError Text}
    (h : layoutOf Registry.builtin path content = .ok layout) :
    layout.registry = Registry.builtin := by
  unfold layoutOf at h
  split at h
  · cases h
  · split at h
    · cases h
    · rename_i read hread
      obtain ⟨drawn, hdrawn, rfl⟩ := Layout.drawn_of_ofText hread
      obtain rfl := Except.ok.inj h
      unfold nameAfter
      split
      · exact hdrawn.registry_eq
      · exact hdrawn.registry_eq

/-! ## What a build leaves behind -/

/-- The event of a file that has been written. -/
def Output.written (output : Output) : Event :=
  .wrote output.path output.data (.ok ())

def Output.reported (output : Output) : Event :=
  .printed ("... ".toList ++ output.path)

theorem writes_written (outputs : List Output) :
    writes (outputs.map Output.written) = outputs.map fun output => (output.path, output.data) := by
  unfold writes
  rw [List.filterMap_map]
  show outputs.filterMap (fun output => some (output.path, output.data)) = _
  exact congrFun List.filterMap_eq_map' outputs

/-- A layout file that is accepted, with the texts of its drivers. -/
structure Compiled (config : Config) (directory : Path) where
  path : Path
  source : Text
  layout : Layout
  accepted : layoutOf Registry.builtin path (.ok source) = .ok layout
  content : Driver → Text
  rendered : ∀ driver : Driver, driver.render layout config.options = .ok (content driver)

namespace Compiled

/-- All files of the layout, in the order in which they are written. -/
def outputs (compiled : Compiled config directory) : List Output :=
  let file (ending : String) (data : List UInt8) : Output :=
    ⟨Output.pathOf directory compiled.layout ending, data⟩
  [file ".xkb" (Text.Utf8.encode (compiled.content .xkb)),
    file ".klc" (Text.Utf16.encodeDos (compiled.content .klc))] ++
  (if config.klcCopy then [file "_utf8.klc" (Text.Utf8.encode (compiled.content .klc))] else []) ++
  [file ".keylayout" (Text.Utf8.encode (compiled.content .keylayout))] ++
  (if config.web then
    [file ".json" (Text.Utf8.encode (WebKeymap.ofLayout compiled.layout).text)]
  else [])

/-- The files of one driver. -/
def outputsOf (compiled : Compiled config directory) (driver : Driver) : List Output :=
  match driver with
  | .xkb => [⟨Output.pathOf directory compiled.layout ".xkb",
      Text.Utf8.encode (compiled.content .xkb)⟩]
  | .klc => ⟨Output.pathOf directory compiled.layout ".klc",
      Text.Utf16.encodeDos (compiled.content .klc)⟩ ::
    (if config.klcCopy then [⟨Output.pathOf directory compiled.layout "_utf8.klc",
      Text.Utf8.encode (compiled.content .klc)⟩] else [])
  | .keylayout => [⟨Output.pathOf directory compiled.layout ".keylayout",
      Text.Utf8.encode (compiled.content .keylayout)⟩]

theorem ofDriver_eq (compiled : Compiled config directory) (driver : Driver) :
    Output.ofDriver config directory compiled.layout driver = .ok (compiled.outputsOf driver) := by
  unfold Output.ofDriver
  rw [compiled.rendered]
  cases driver <;> rfl

theorem outputs_eq (compiled : Compiled config directory) :
    compiled.outputs =
      Driver.all.flatMap compiled.outputsOf ++ Output.ofWeb config directory compiled.layout := by
  simp [outputs, outputsOf, Driver.all, Output.ofWeb]

/-- The layout file is read, then all files are written, and then they are reported. -/
def events (compiled : Compiled config directory) : List Event :=
  [.looked compiled.path true, .read compiled.path (.ok compiled.source)] ++
    compiled.outputs.map Output.written ++ compiled.outputs.map Output.reported

/-- The files of the layout as they are written. -/
def files (compiled : Compiled config directory) : List (Path × List UInt8) :=
  compiled.outputs.map fun output => (output.path, output.data)

theorem writes_events (compiled : Compiled config directory) :
    writes compiled.events = compiled.files := by
  have hreported : ∀ outputs : List Output, writes (outputs.map Output.reported) = [] := by
    intro outputs
    unfold writes
    rw [List.filterMap_map]
    exact List.filterMap_eq_nil_iff.mpr fun _ _ => rfl
  unfold events files
  rw [writes_append, writes_append, writes_written, hreported, List.append_nil]
  rfl

end Compiled

/-- A layout file is refused: it is missing, cannot be read, or does not describe a layout. -/
inductive Refused : Path → List Event → Failure → Prop
  | missing (path : Path) : Refused path [.looked path false] (.layoutNotFound path)
  | unreadable (path : Path) (e : ReadError) :
      Refused path [.looked path true, .read path (.error e)] (.layoutUnreadable path e)
  | invalid (path : Path) {source : Text} {e : LayoutError} :
      Layout.ofText Registry.builtin source = .error e →
      Refused path [.looked path true, .read path (.ok source)] (.layoutInvalid path e)

theorem refused_of_layoutOf {content : Except ReadError Text} {failure : Failure}
    (h : layoutOf Registry.builtin path content = .error failure) :
    Refused path [.looked path true, .read path content] failure := by
  unfold layoutOf at h
  split at h
  · rename_i e
    cases h
    exact .unreadable path e
  · split at h
    · rename_i hread
      cases h
      exact .invalid path hread
    · cases h

/-- What is accepted has been read and is rendered by every driver. -/
theorem exists_compiled {content : Except ReadError Text}
    (hconfig : config.validateGeometry Registry.builtin = .ok ())
    (h : layoutOf Registry.builtin path content = .ok layout) (directory : Path) :
    ∃ compiled : Compiled config directory, compiled.path = path ∧ compiled.layout = layout
      ∧ content = .ok compiled.source := by
  cases content with
  | error e => cases h
  | ok source =>
      have hregistry := registry_of_layoutOf h
      choose text htext using fun driver : Driver =>
        driver.render_of_validateGeometry hconfig hregistry
      exact ⟨⟨path, source, layout, h, text, htext⟩, rfl, rfl, rfl⟩

theorem Refused.unwritten {events : List Event} {failure : Failure}
    (h : Refused path events failure) : writes events = [] := by
  cases h <;> rfl

/-- The first layout files have been read, and what is written is the beginning of their files. -/
structure Begins (paths : List Path) (begun : List (Compiled config directory))
    (events : List Event) : Prop where
  paths : begun.map (·.path) <+: paths
  read : ∀ compiled ∈ begun, .read compiled.path (.ok compiled.source) ∈ events
  files : writes events <+: begun.flatMap (·.files)

theorem Begins.nil {paths : List Path} {events : List Event} (h : writes events = []) :
    Begins paths ([] : List (Compiled config directory)) events where
  paths := List.nil_prefix
  read _ hcompiled := nomatch hcompiled
  files := h ▸ List.nil_prefix

theorem Begins.cons {paths : List Path} {begun : List (Compiled config directory)}
    {events : List Event} (compiled : Compiled config directory) (h : Begins paths begun events) :
    Begins (compiled.path :: paths) (compiled :: begun) (compiled.events ++ events) where
  paths := List.cons_prefix_cons.mpr ⟨rfl, h.paths⟩
  read := by
    refine List.forall_mem_cons.mpr ⟨?_, fun other hother => ?_⟩
    · exact List.mem_append_left _ (by simp [Compiled.events])
    · exact List.mem_append_right _ (h.read other hother)
  files := by
    rw [List.flatMap_cons, writes_append, compiled.writes_events]
    exact (List.prefix_append_right_inj _).mpr h.files

theorem Begins.behind {paths : List Path} {begun : List (Compiled config directory)}
    {events first : List Event} (h : Begins paths begun events) (hfirst : writes first = []) :
    Begins paths begun (first ++ events) where
  paths := h.paths
  read compiled hcompiled := List.mem_append_right _ (h.read compiled hcompiled)
  files := by
    rw [writes_append, hfirst]
    exact h.files

/-- Layout files are compiled one after the other: all of them, or those before one that is
refused. -/
inductive Compiles (config : Config) (directory : Path) :
    List Path → List (Compiled config directory) → List Event → Except Failure Unit → Prop
  | all (done : List (Compiled config directory)) :
      Compiles config directory (done.map (·.path)) done (done.flatMap (·.events)) (.ok ())
  | upTo (done : List (Compiled config directory)) {path : Path} {events : List Event}
      {failure : Failure} (rest : List Path) : Refused path events failure →
      Compiles config directory (done.map (·.path) ++ path :: rest) done
        (done.flatMap (·.events) ++ events) (.error failure)

namespace Compiles

variable {paths : List Path} {done : List (Compiled config directory)} {events : List Event}
  {result : Except Failure Unit}

theorem cons (compiled : Compiled config directory)
    (h : Compiles config directory paths done events result) :
    Compiles config directory (compiled.path :: paths) (compiled :: done)
      (compiled.events ++ events) result := by
  cases h with
  | all => exact .all (compiled :: done)
  | upTo _ rest hrefused =>
      rw [← List.append_assoc]
      exact .upTo (compiled :: done) rest hrefused

/-- The files that are written are those of the compiled layouts. -/
theorem writes_eq (h : Compiles config directory paths done events result) :
    writes events = done.flatMap (·.files) := by
  have hdone : ∀ done : List (Compiled config directory),
      writes (done.flatMap (·.events)) = done.flatMap (·.files) := by
    intro done
    induction done with
    | nil => rfl
    | cons compiled rest ih =>
        rw [List.flatMap_cons, List.flatMap_cons, writes_append, ih, compiled.writes_events]
  cases h with
  | all => exact hdone done
  | upTo _ _ hrefused => rw [writes_append, hdone, hrefused.unwritten, List.append_nil]

theorem begins (h : Compiles config directory paths done events result) :
    Begins paths done events where
  paths := by
    cases h with
    | all => exact List.prefix_rfl
    | upTo _ rest _ => exact List.prefix_append _ _
  read compiled hcompiled := by
    have hread : .read compiled.path (.ok compiled.source) ∈ done.flatMap (·.events) :=
      List.mem_flatMap.mpr ⟨compiled, hcompiled, by simp [Compiled.events]⟩
    cases h with
    | all => exact hread
    | upTo _ _ _ => exact List.mem_append_left _ hread
  files := h.writes_eq ▸ List.prefix_rfl

end Compiles

/-! ## The parts of a build -/

section

variable {σ : Type} [Disk (StateM σ)]

theorem traces_loadLayout (registry : Registry) (path : Path) :
    Traces (loadLayout registry path)
      (loadLayout registry path : StateM σ (Except Failure Layout)) fun events result =>
        events = [.looked path false] ∧ result = .error (.layoutNotFound path)
          ∨ ∃ content, events = [.looked path true, .read path content]
            ∧ result = layoutOf registry path content := by
  refine (traces_record _ _).bind ?_
  rintro _ isFile rfl
  cases isFile with
  | false => exact traces_pure (Or.inl ⟨rfl, rfl⟩)
  | true =>
      refine (traces_record _ _).bind ?_
      rintro _ content rfl
      exact traces_pure (Or.inr ⟨content, rfl, rfl⟩)

/-- The disk refused to make the directory for the drivers or to take a file. -/
def Failure.OfDisk : Failure → Prop
  | .outputDirectory _ _ | .write _ _ => True
  | _ => False

/-- The disk stopped the build, and the journal has its refusal. -/
def Obstructed (events : List Event) (failure : Failure) : Prop :=
  failure.OfDisk ∧ ∃ event ∈ events, event.Refused

theorem Obstructed.mono {events more : List Event} {failure : Failure}
    (h : Obstructed events failure) (hmore : events ⊆ more) : Obstructed more failure := by
  obtain ⟨hdisk, event, hevent, hrefused⟩ := h
  exact ⟨hdisk, event, hmore hevent, hrefused⟩

/-- The disk stopped the writing of these files. -/
def Interrupted (outputs : List Output) (events : List Event) (failure : Failure) : Prop :=
  Obstructed events failure ∧ writes events <+: writes (outputs.map Output.written)

theorem Interrupted.append {outputs : List Output} {events : List Event} {failure : Failure}
    (h : Interrupted outputs events failure) (more : List Output) :
    Interrupted (outputs ++ more) events failure := by
  refine ⟨h.1, h.2.trans ?_⟩
  rw [List.map_append, writes_append]
  exact List.prefix_append _ _

theorem Interrupted.behind {outputs : List Output} {events : List Event} {failure : Failure}
    (h : Interrupted outputs events failure) (first : List Output) :
    Interrupted (first ++ outputs) (first.map Output.written ++ events) failure := by
  refine ⟨h.1.mono (by simp), ?_⟩
  rw [List.map_append, writes_append, writes_append]
  exact (List.prefix_append_right_inj _).mpr h.2

namespace BuildRequest

theorem traces_writeAll (outputs : List Output) :
    Traces (writeAll outputs) (writeAll outputs : StateM σ (Except Failure Unit))
      fun events result => match result with
        | .ok _ => events = outputs.map Output.written
        | .error failure => Interrupted outputs events failure := by
  induction outputs with
  | nil => exact traces_pure rfl
  | cons output rest ih =>
      refine (traces_record _ _).bind ?_
      rintro _ answer rfl
      cases answer with
      | error e =>
          refine traces_pure ⟨⟨trivial, _, List.mem_singleton_self _, trivial⟩, ?_⟩
          exact ⟨writes (rest.map Output.written), rfl⟩
      | ok _ =>
          refine ih.mono fun events result hrest => ?_
          cases result with
          | error failure => exact hrest.behind [output]
          | ok _ =>
              rw [hrest]
              rfl

/-- Nothing but the disk comes between the drivers of a compiled layout. -/
theorem traces_writeDrivers (compiled : Compiled config directory) (drivers : List Driver) :
    Traces (writeDrivers config directory compiled.layout drivers)
      (writeDrivers config directory compiled.layout drivers :
        StateM σ (Except Failure (List Output)))
      fun events result => match result with
        | .ok outputs => outputs = drivers.flatMap compiled.outputsOf
            ∧ events = outputs.map Output.written
        | .error failure => Interrupted (drivers.flatMap compiled.outputsOf) events failure := by
  induction drivers with
  | nil => exact traces_pure ⟨rfl, rfl⟩
  | cons driver rest ih =>
      unfold writeDrivers
      rw [compiled.ofDriver_eq, List.flatMap_cons]
      refine (traces_writeAll _).bind ?_
      intro first answer hfirst
      cases answer with
      | error failure =>
          rw [← List.append_nil first] at hfirst
          exact traces_pure (hfirst.append _)
      | ok _ =>
          obtain rfl : first = _ := hfirst
          refine ih.bind ?_
          intro behind result hrest
          cases result with
          | error failure =>
              rw [← List.append_nil behind] at hrest
              exact traces_pure (hrest.behind _)
          | ok outputs =>
              obtain ⟨houtputs, hbehind⟩ := hrest
              refine traces_pure ⟨?_, ?_⟩
              · rw [houtputs]
              · rw [hbehind, List.append_nil, List.map_append]

theorem traces_writeLayout (compiled : Compiled config directory) :
    Traces (writeLayout config directory compiled.layout)
      (writeLayout config directory compiled.layout : StateM σ (Except Failure (List Output)))
      fun events result => match result with
        | .ok outputs => outputs = compiled.outputs ∧ events = outputs.map Output.written
        | .error failure => Interrupted compiled.outputs events failure := by
  rw [compiled.outputs_eq]
  refine (traces_writeDrivers compiled _).bind ?_
  intro first drivers hfirst
  cases drivers with
  | error failure =>
      rw [← List.append_nil first] at hfirst
      exact traces_pure (hfirst.append _)
  | ok outputs =>
      obtain ⟨houtputs, rfl⟩ := hfirst
      refine (traces_writeAll _).bind ?_
      intro behind answer hbehind
      cases answer with
      | error failure =>
          rw [← List.append_nil behind] at hbehind
          rw [← houtputs]
          exact traces_pure (hbehind.behind _)
      | ok _ =>
          refine traces_pure ⟨?_, ?_⟩
          · rw [houtputs]
          · rw [hbehind, List.append_nil, List.map_append]

theorem traces_report (outputs : List Output) :
    Traces (outputs.forM fun output => Disk.print ("... ".toList ++ output.path))
      (outputs.forM fun output => Disk.print ("... ".toList ++ output.path) : StateM σ Unit)
      fun events _ => events = outputs.map Output.reported := by
  induction outputs with
  | nil => exact traces_pure rfl
  | cons output rest ih =>
      refine (traces_record _ _).bind ?_
      rintro _ _ rfl
      exact ih.mono fun events _ hrest => congrArg (Output.reported output :: ·) hrest

/-- A layout file is compiled as a whole, or refused, or the disk refuses to take a file. -/
theorem traces_buildOne (h : config.validateGeometry Registry.builtin = .ok ())
    (directory path : Path) :
    Traces (buildOne config directory path)
      (buildOne config directory path : StateM σ (Except Failure Unit))
      fun events result => match result with
        | .ok _ => ∃ compiled : Compiled config directory,
            compiled.path = path ∧ events = compiled.events
        | .error failure => Refused path events failure ∨ Obstructed events failure
            ∧ ∃ compiled : Compiled config directory, Begins [path] [compiled] events := by
  refine (traces_loadLayout _ _).bind ?_
  rintro _ loaded (⟨rfl, rfl⟩ | ⟨content, rfl, rfl⟩)
  · exact traces_pure (Or.inl (.missing path))
  · cases hloaded : layoutOf Registry.builtin path content with
    | error failure => exact traces_pure (Or.inl (refused_of_layoutOf hloaded))
    | ok layout =>
        obtain ⟨compiled, rfl, rfl, rfl⟩ := exists_compiled h hloaded directory
        refine (traces_writeLayout compiled).bind ?_
        intro written result hwritten
        cases result with
        | error failure =>
            obtain ⟨hobstructed, hwrites⟩ := hwritten
            refine traces_pure (Or.inr ⟨hobstructed.mono (by simp), compiled, List.prefix_rfl,
              by simp, ?_⟩)
            rw [List.append_nil, writes_append, List.flatMap_singleton]
            rwa [writes_written] at hwrites
        | ok outputs =>
            obtain ⟨rfl, rfl⟩ := hwritten
            refine (traces_report _).bind ?_
            rintro _ _ rfl
            refine traces_pure ⟨compiled, rfl, ?_⟩
            rw [List.append_nil, ← List.append_assoc]
            rfl

/-- Layout files are compiled as wholes up to the first one that is refused, unless the disk refuses
to take a file. -/
theorem traces_buildAll (h : config.validateGeometry Registry.builtin = .ok ())
    (directory : Path) (paths : List Path) :
    Traces (buildAll config directory paths)
      (buildAll config directory paths : StateM σ (Except Failure Unit))
      fun events result => (∃ done, Compiles config directory paths done events result)
        ∨ ∃ failure, Obstructed events failure ∧ result = .error failure
          ∧ ∃ begun : List (Compiled config directory), Begins paths begun events := by
  induction paths with
  | nil => exact traces_pure (Or.inl ⟨[], .all []⟩)
  | cons path rest ih =>
      refine (traces_buildOne h directory path).bind ?_
      intro first result hfirst
      cases result with
      | ok _ =>
          obtain ⟨compiled, rfl, rfl⟩ := hfirst
          refine ih.mono fun events result hrest => ?_
          rcases hrest with ⟨done, hdone⟩ | ⟨failure, hobstructed, rfl, begun, hbegun⟩
          · exact Or.inl ⟨compiled :: done, hdone.cons compiled⟩
          · exact Or.inr ⟨failure, hobstructed.mono (by simp), rfl, _, hbegun.cons compiled⟩
      | error failure =>
          rw [← List.append_nil first] at hfirst
          rcases hfirst with hrefused | ⟨hobstructed, compiled, hbegun⟩
          · exact traces_pure (Or.inl ⟨[], .upTo [] rest hrefused⟩)
          · refine traces_pure (Or.inr ⟨failure, hobstructed, rfl, [compiled], ?_⟩)
            exact { hbegun with paths := hbegun.paths.trans (by simp) }

/-- The configuration that a build goes by, and the asking and reading that it comes from. -/
inductive Configured (request : BuildRequest) : Option Path → List Event → Config → Prop
  | given {home : Option Path} {path : Path} {t : Text} {config : Config} :
      request.config = some path → Config.ofText path t = .ok config →
      Configured request home [.looked path true, .read path (.ok t)] config
  | users {home path : Path} {t : Text} {config : Config} : request.config = none →
      path = Path.join home Config.fileName → Config.ofText path t = .ok config →
      Configured request (some home) [.asked path true, .read path (.ok t)] config
  | default {home : Path} : request.config = none →
      Configured request (some home) [.asked (Path.join home Config.fileName) false] {}

/-- What comes of a configuration file, whether or not it could be read. -/
def configOf (path : Path) : Except ReadError Text → Except ConfigError Config
  | .error e => .error (.unreadable path e)
  | .ok t => Config.ofText path t

/-- The configuration is refused: it is missing, cannot be read or is no configuration, or there is
no place where it could be. Or it is accepted, but not its preview board. -/
inductive Misconfigured (request : BuildRequest) : Option Path → List Event → Failure → Prop
  | missing {home : Option Path} {path : Path} : request.config = some path →
      Misconfigured request home [.looked path false] (.configNotFound path)
  | homeless : request.config = none → Misconfigured request none [] .noConfigDirectory
  | given {home : Option Path} {path : Path} {content : Except ReadError Text} {e : ConfigError} :
      request.config = some path → configOf path content = .error e →
      Misconfigured request home [.looked path true, .read path content] (.config e)
  | users {home path : Path} {content : Except ReadError Text} {e : ConfigError} :
      request.config = none → path = Path.join home Config.fileName →
      configOf path content = .error e →
      Misconfigured request (some home) [.asked path true, .read path content] (.config e)
  | preview {home : Option Path} {events : List Event} {config : Config}
      {e : Config.UnknownPreview} :
      Configured request home events config → config.validateGeometry Registry.builtin = .error e →
      Misconfigured request home events (.preview e)

theorem exists_text_of_configOf {content : Except ReadError Text}
    (h : configOf path content = .ok config) :
    ∃ t, content = .ok t ∧ Config.ofText path t = .ok config := by
  cases content with
  | error e => cases h
  | ok t => exact ⟨t, rfl, h⟩

theorem traces_load (path : Path) :
    Traces (Config.load path) (Config.load path : StateM σ (Except ConfigError Config))
      fun events result => ∃ content, events = [.read path content]
        ∧ result = configOf path content := by
  refine (traces_record _ _).bind ?_
  rintro _ content rfl
  cases content with
  | error e => exact traces_pure ⟨_, rfl, rfl⟩
  | ok t => exact traces_pure ⟨_, rfl, rfl⟩

/-- The configuration in the directory of the user, if there is one, or the default one. -/
theorem traces_loadFrom (home : Path) :
    Traces (Config.loadFrom home) (Config.loadFrom home : StateM σ (Except ConfigError Config))
      fun events result => (∀ event ∈ events, ¬event.Changes) ∧
        ∀ request : BuildRequest, request.config = none → match result with
          | .ok config => Configured request (some home) events config
          | .error e => Misconfigured request (some home) events (.config e) := by
  refine (traces_record _ _).bind ?_
  rintro _ there rfl
  cases there with
  | false => exact traces_pure ⟨by simp [Event.Changes], fun request hrequest => .default hrequest⟩
  | true =>
      refine (traces_load _).mono ?_
      rintro _ result ⟨content, rfl, hload⟩
      refine ⟨by simp [Event.Changes], fun request hrequest => ?_⟩
      cases result with
      | error e => exact .users hrequest rfl hload.symm
      | ok config =>
          obtain ⟨t, rfl, hconfig⟩ := exists_text_of_configOf hload.symm
          exact .users hrequest rfl hconfig

/-- Loading a configuration leaves the disk as it is. -/
theorem traces_loadConfig (request : BuildRequest) (home : Option Path) :
    Traces (request.loadConfig home)
      (request.loadConfig home : StateM σ (Except Failure Config))
      fun events result => (∀ event ∈ events, ¬event.Changes) ∧ match result with
        | .ok config => Configured request home events config
        | .error failure => Misconfigured request home events failure := by
  unfold loadConfig
  cases hrequest : request.config with
  | some path =>
      refine (traces_record _ _).bind ?_
      rintro _ isFile rfl
      cases isFile with
      | false => exact traces_pure ⟨by simp [Event.Changes], .missing hrequest⟩
      | true =>
          refine (traces_load path).bind ?_
          rintro _ result ⟨content, rfl, hload⟩
          refine traces_pure ⟨by simp [Event.Changes], ?_⟩
          cases result with
          | error e => exact .given hrequest hload.symm
          | ok config =>
              obtain ⟨t, rfl, hconfig⟩ := exists_text_of_configOf hload.symm
              exact .given hrequest hconfig
  | none =>
      cases home with
      | none => exact traces_pure ⟨by simp, .homeless hrequest⟩
      | some home =>
          refine (traces_loadFrom home).bind ?_
          rintro events result ⟨hunchanged, hload⟩
          refine traces_pure ⟨by simpa using hunchanged, ?_⟩
          rw [List.append_nil]
          cases result with
          | error e => exact hload request hrequest
          | ok config => exact hload request hrequest

theorem writes_of_unchanged {events : List Event} (h : ∀ event ∈ events, ¬event.Changes) :
    writes events = [] := by
  refine List.filterMap_eq_nil_iff.mpr fun event hevent => ?_
  have hunchanged := h event hevent
  cases event with
  | wrote path data answer => exact absurd trivial hunchanged
  | _ => rfl

/-- A whole build, step by step. -/
theorem traces_steps (request : BuildRequest) (home : Option Path) :
    Traces (request.run home) (request.run home : StateM σ (Except Failure Unit))
      fun events result =>
        (∃ failure, Misconfigured request home events failure ∧ result = .error failure
            ∧ ∀ event ∈ events, ¬event.Changes)
          ∨ ∃ config before made behind, events = before ++ made ++ behind
            ∧ Configured request home before config ∧ writes (before ++ made) = []
            ∧ config.validateGeometry Registry.builtin = .ok ()
            ∧ ((∃ done, Compiles config (request.directory.getD config.directory) request.layouts
                  done behind result)
              ∨ ∃ failure, Obstructed events failure ∧ result = .error failure
                ∧ ∃ begun : List (Compiled config (request.directory.getD config.directory)),
                  Begins request.layouts begun behind) := by
  refine (traces_loadConfig request home).bind ?_
  rintro before loaded ⟨hunchanged, hloaded⟩
  cases loaded with
  | error failure =>
      refine traces_pure (Or.inl ?_)
      rw [List.append_nil]
      exact ⟨failure, hloaded, rfl, hunchanged⟩
  | ok config =>
      cases hboard : config.validateGeometry Registry.builtin with
      | error e =>
          simp only [hboard]
          refine traces_pure (Or.inl ?_)
          rw [List.append_nil]
          exact ⟨.preview e, .preview hloaded hboard, rfl, hunchanged⟩
      | ok _ =>
          simp only [hboard]
          refine (Disk.traces_createDirectories _).bind ?_
          rintro made answer ⟨hmade, hrefused⟩
          have hunwritten := unwritten (writes_of_unchanged hunchanged) hmade
          cases answer with
          | error e =>
              obtain ⟨event, hevent, hrefusal⟩ := hrefused e rfl
              refine traces_pure (Or.inr ⟨config, before, made, [], by simp, hloaded, hunwritten,
                hboard, Or.inr ⟨.outputDirectory _ e, ⟨trivial, ?_⟩, rfl, [], .nil rfl⟩⟩)
              exact ⟨event, by simp [hevent], hrefusal⟩
          | ok _ =>
              refine (traces_buildAll hboard _ _).mono fun behind result hbuilt => ?_
              rw [← List.append_assoc]
              refine Or.inr ⟨config, before, made, behind, rfl, hloaded, hunwritten, hboard, ?_⟩
              refine hbuilt.imp_right ?_
              rintro ⟨failure, hobstructed, rfl, hbegun⟩
              exact ⟨failure, hobstructed.mono (by simp), rfl, hbegun⟩

end BuildRequest

end

/-- A world with one layout file. -/
def desk : World :=
  { entries := [(["a.yaml".toList], .file (Text.Utf8.encode "name: a".toList))] }

end Command

end KeyboardLayout
