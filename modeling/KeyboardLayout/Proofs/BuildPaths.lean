import KeyboardLayout.Proofs.BuildRuns
import KeyboardLayout.Proofs.PathPlaces

/-!
# Where a build writes

A build calls its files by the names of the layouts, with an ending that says what is in them. Both
come from outside: a name may have a folder of its own, and one of the endings, that of the UTF-8
copy of a KLC file, goes on with letters that a name may have as well. So the files lie in the
directory for the drivers exactly as far as the folders of the names lead nowhere else
(`written_isChildOf_iff`), and have different paths unless the copy of one layout is called like the
KLC file of another (`nodup_written_iff`).
-/

namespace KeyboardLayout.Command

variable {config : Config} {directory : Path} {request : BuildRequest} {home : Option Path}

/-! ## Endings -/

namespace Output

/-- What stands behind the name of a layout in the names of its files. -/
def endings (config : Config) : List String :=
  [".xkb", ".klc"] ++ (if config.klcCopy then ["_utf8.klc"] else []) ++ [".keylayout"] ++
    (if config.web then [".json"] else [])

def allEndings : List String :=
  [".xkb", ".klc", "_utf8.klc", ".keylayout", ".json"]

theorem mem_endings {ending : String} (h : ending ∈ endings config) :
    ending ∈ allEndings ∧ (ending = "_utf8.klc" → config.klcCopy = true) := by
  have hall : ∀ copy web : Bool, ∀ ending ∈ [".xkb", ".klc"] ++
      (if copy then ["_utf8.klc"] else []) ++ [".keylayout"] ++ (if web then [".json"] else []),
      ending ∈ allEndings ∧ (ending = "_utf8.klc" → copy = true) := by
    decide
  exact hall config.klcCopy config.web ending h

theorem slash_not_mem_ending {ending : String} (h : ending ∈ endings config) :
    '/' ∉ ending.toList ∧ 2 < ending.toList.length := by
  have hall : ∀ ending ∈ allEndings, '/' ∉ ending.toList ∧ 2 < ending.toList.length := by
    decide
  exact hall ending (mem_endings h).1

theorem nodup_endings (config : Config) : (endings config).Nodup := by
  unfold endings
  cases config.klcCopy <;> cases config.web <;> decide

/-- The last character tells all endings apart but those of the two KLC files. -/
theorem ending_eq_or {ending other : String} (h : ending ∈ endings config)
    (hother : other ∈ endings config) {name name' : Text}
    (heq : name ++ ending.toList = name' ++ other.toList) :
    ending = other ∨ ending = ".klc" ∧ other = "_utf8.klc" ∨
      ending = "_utf8.klc" ∧ other = ".klc" := by
  have hne : ∀ {e : String}, e ∈ endings config → e.toList ≠ [] := fun he =>
    List.ne_nil_of_length_pos (Nat.lt_trans Nat.two_pos (slash_not_mem_ending he).2)
  have hlast : ending.toList.getLast? = other.toList.getLast? := by
    have hwhole := congrArg List.getLast? heq
    rwa [List.getLast?_append_of_ne_nil _ (hne h), List.getLast?_append_of_ne_nil _ (hne hother)]
      at hwhole
  have hall : ∀ e ∈ allEndings, ∀ e' ∈ allEndings, e.toList.getLast? = e'.toList.getLast? →
      e = e' ∨ e = ".klc" ∧ e' = "_utf8.klc" ∨ e = "_utf8.klc" ∧ e' = ".klc" := by
    decide
  exact hall ending (mem_endings h).1 other (mem_endings hother).1 hlast

/-- Names with endings are different unless one of them is the UTF-8 copy of the other name. -/
theorem append_ending_inj {ending other : String} (h : ending ∈ endings config)
    (hother : other ∈ endings config) {name name' : Text}
    (heq : name ++ ending.toList = name' ++ other.toList) :
    name = name' ∧ ending = other ∨ config.klcCopy = true ∧
      (name = name' ++ "_utf8".toList ∨ name' = name ++ "_utf8".toList) := by
  have hcopy : "_utf8.klc".toList = "_utf8".toList ++ ".klc".toList := by decide
  rcases ending_eq_or h hother heq with rfl | ⟨rfl, rfl⟩ | ⟨rfl, rfl⟩
  · exact Or.inl ⟨List.append_cancel_right heq, rfl⟩
  · rw [hcopy, ← List.append_assoc] at heq
    exact Or.inr ⟨(mem_endings hother).2 rfl, Or.inl (List.append_cancel_right heq)⟩
  · rw [hcopy, ← List.append_assoc] at heq
    exact Or.inr ⟨(mem_endings h).2 rfl, Or.inr (List.append_cancel_right heq).symm⟩

end Output

/-! ## Paths -/

/-- The paths of the files of a layout with that name. -/
def pathsOf (config : Config) (directory : Path) (name : Text) : List Path :=
  (Output.endings config).map fun ending => Path.join directory (name ++ ending.toList)

/-- The UTF-8 copy of one of the layouts is called like the KLC file of another. -/
def CopyClashes (config : Config) (names : List Text) : Prop :=
  config.klcCopy = true ∧ ∃ name ∈ names, name ++ "_utf8".toList ∈ names

theorem append_eq_of_join_eq {name name' : Text} {ending other : String}
    (h : ending ∈ Output.endings config) (hother : other ∈ Output.endings config)
    (hname : '/' ∉ name) (hname' : '/' ∉ name')
    (heq : Path.join directory (name ++ ending.toList) =
      Path.join directory (name' ++ other.toList)) :
    name ++ ending.toList = name' ++ other.toList := by
  have hplain : ∀ {name : Text} {ending : String}, ending ∈ Output.endings config → '/' ∉ name →
      Path.join directory (name ++ ending.toList) =
        Path.join directory [] ++ (name ++ ending.toList) := by
    intro name ending hending hname
    refine Path.join_append (Or.inl rfl) fun hmem => ?_
    exact (List.mem_append.mp hmem).elim hname (Output.slash_not_mem_ending hending).1
  rw [hplain h hname, hplain hother hname'] at heq
  exact List.append_cancel_left heq

section

variable {names : List Text}

theorem not_nodup_of_copyClashes (hclash : CopyClashes config names) :
    ¬(names.flatMap (pathsOf config directory)).Nodup := by
  obtain ⟨hcopy, name, hname, hlonger⟩ := hclash
  have hne : name ≠ name ++ "_utf8".toList := by
    intro heq
    have hlength := congrArg List.length heq
    simp at hlength
  have hcommon : Path.join directory (name ++ "_utf8.klc".toList) ∈ pathsOf config directory name :=
    List.mem_map.mpr ⟨"_utf8.klc", by simp [Output.endings, hcopy], rfl⟩
  have hcommon' : Path.join directory (name ++ "_utf8.klc".toList) ∈
      pathsOf config directory (name ++ "_utf8".toList) := by
    refine List.mem_map.mpr ⟨".klc", by simp [Output.endings], ?_⟩
    rw [List.append_assoc]
    rfl
  have hsymm : Std.Symm (Function.onFun List.Disjoint (pathsOf config directory)) :=
    ⟨fun _ _ h _ hpath hpath' => h hpath' hpath⟩
  intro hnodup
  exact (List.nodup_flatMap.mp hnodup).2.forall hname hlonger hne hcommon hcommon'

theorem nodup_of_not_copyClashes (hnames : names.Nodup) (hslashes : ∀ name ∈ names, '/' ∉ name)
    (hclash : ¬CopyClashes config names) :
    (names.flatMap (pathsOf config directory)).Nodup := by
  have hsame : ∀ name ∈ names, ∀ name' ∈ names, ∀ ending ∈ Output.endings config,
      ∀ other ∈ Output.endings config, Path.join directory (name ++ ending.toList) =
        Path.join directory (name' ++ other.toList) → name = name' ∧ ending = other := by
    intro name hname name' hname' ending hending other hother heq
    have happend :=
      append_eq_of_join_eq hending hother (hslashes name hname) (hslashes name' hname') heq
    rcases Output.append_ending_inj hending hother happend with h | ⟨hcopy, rfl | rfl⟩
    · exact h
    · exact absurd ⟨hcopy, name', hname', hname⟩ hclash
    · exact absurd ⟨hcopy, name, hname, hname'⟩ hclash
  refine List.nodup_flatMap.mpr ⟨fun name hname => ?_, ?_⟩
  · refine List.Nodup.map_on (fun ending hending other hother heq => ?_)
      (Output.nodup_endings config)
    exact (hsame name hname name hname ending hending other hother heq).2
  · refine hnames.imp_of_mem fun {name name'} hname hname' hne => ?_
    intro path hpath hpath'
    obtain ⟨ending, hending, rfl⟩ := List.mem_map.mp hpath
    obtain ⟨other, hother, heq⟩ := List.mem_map.mp hpath'
    exact hne (hsame name' hname' name hname other hother ending hending heq).1.symm

/-- The paths of layouts with different names, none with a slash, are different exactly if no copy
clashes. -/
theorem nodup_paths_iff (hnames : names.Nodup) (hslashes : ∀ name ∈ names, '/' ∉ name) :
    (names.flatMap (pathsOf config directory)).Nodup ↔ ¬CopyClashes config names :=
  ⟨fun hnodup hclash => not_nodup_of_copyClashes hclash hnodup,
    nodup_of_not_copyClashes hnames hslashes⟩

end

namespace Compiled

/-- What the layout is called. -/
def name (compiled : Compiled config directory) : Text :=
  compiled.layout.metadata.name

theorem paths_files (compiled : Compiled config directory) :
    compiled.files.map Prod.fst = pathsOf config directory compiled.name := by
  unfold files outputs pathsOf Output.endings
  cases config.klcCopy <;> cases config.web <;> rfl

theorem paths_flatMap_files (compiled : List (Compiled config directory)) :
    (compiled.flatMap (·.files)).map Prod.fst =
      (compiled.map (·.name)).flatMap (pathsOf config directory) := by
  rw [List.map_flatMap, List.flatMap_map]
  exact congrArg (compiled.flatMap ·) (funext paths_files)

end Compiled

namespace BuildRequest

/-! ## Runs -/

/-- A run went by the configuration, and the layouts are those that it accepted and began to write.
Their files have been written in order, all of them unless the disk stopped the run. -/
structure Ran (request : BuildRequest) (home : Option Path) (config : Config)
    (done : List (Compiled config (request.directory.getD config.directory)))
    (events : List Event) (result : Except Failure Unit) : Prop where
  configured : ∃ before, before <+: events ∧ Configured request home before config
  begins : Begins request.layouts done events
  whole : writes events = done.flatMap (·.files)
    ∨ ∃ failure, Obstructed events failure ∧ result = .error failure
  all : result = .ok () → done.map (·.path) = request.layouts

variable {σ : Type} [Disk (StateM σ)]

theorem traces_ran (request : BuildRequest) (home : Option Path) :
    Traces (request.run home) (request.run home : StateM σ (Except Failure Unit))
      fun events result => writes events = [] ∨ ∃ config, ∃ done, Ran request home config done
        events result := by
  refine (traces_steps request home).mono fun events result hgoes => ?_
  rcases hgoes with ⟨-, -, -, hunchanged⟩ | ⟨config, before, made, behind, rfl, hconfigured,
    hunwritten, -, hbuilt⟩
  · exact Or.inl (writes_of_unchanged hunchanged)
  · have hbefore : before <+: before ++ made ++ behind := by
      rw [List.append_assoc]
      exact List.prefix_append _ _
    rcases hbuilt with ⟨done, hdone⟩ | ⟨failure, hobstructed, rfl, begun, hbegun⟩
    · refine Or.inr ⟨config, done, ⟨before, hbefore, hconfigured⟩, hdone.begins.behind hunwritten,
        Or.inl ?_, fun hresult => ?_⟩
      · rw [writes_append, hunwritten, hdone.writes_eq]
        rfl
      · generalize request.layouts = paths at hdone
        cases hdone with
        | all => rfl
        | upTo => cases hresult
    · exact Or.inr ⟨config, begun, ⟨before, hbefore, hconfigured⟩, hbegun.behind hunwritten,
        Or.inr ⟨failure, hobstructed, rfl⟩, fun hresult => nomatch hresult⟩

/-- What a build answers. -/
def answer (request : BuildRequest) (home : Option Path) (s : σ) : Except Failure Unit :=
  ((request.run home : StateM σ (Except Failure Unit)).run s).1

/-- What a build does, put down in a journal. -/
def journal (request : BuildRequest) (home : Option Path) (s : σ) : List Event :=
  ((request.run home : StateM (σ × List Event) (Except Failure Unit)).run (s, [])).2.2

theorem ran_journal (request : BuildRequest) (home : Option Path) (s : σ) :
    writes (request.journal home s) = [] ∨ ∃ config, ∃ done,
      Ran request home config done (request.journal home s) (request.answer home s) := by
  obtain ⟨events, hrun, hgoes⟩ := traces_ran request home s []
  have hevents : request.journal home s = events := by
    unfold journal
    rw [hrun]
    rfl
  rw [hevents]
  exact hgoes

/-! ## Different paths -/

/-- **Paths of a run.** On any disk, if the layouts that a build writes have different names without
slashes, all paths that it writes are different as long as no UTF-8 copy is called like the KLC file
of another layout. Otherwise two of them are the same, unless the disk stops the build. -/
theorem nodup_written_iff (request : BuildRequest) (home : Option Path) (s : σ) :
    writes (request.journal home s) = [] ∨ ∃ config, ∃ done,
      Ran request home config done (request.journal home s) (request.answer home s)
      ∧ ((done.map (·.name)).Nodup → (∀ compiled ∈ done, '/' ∉ compiled.name) →
        (¬CopyClashes config (done.map (·.name)) →
          ((writes (request.journal home s)).map Prod.fst).Nodup)
        ∧ (CopyClashes config (done.map (·.name)) →
          ¬((writes (request.journal home s)).map Prod.fst).Nodup ∨ ∃ failure,
            Obstructed (request.journal home s) failure
              ∧ request.answer home s = .error failure)) := by
  refine (ran_journal request home s).imp_right ?_
  rintro ⟨config, done, hran⟩
  refine ⟨config, done, hran, fun hnames hslashes => ?_⟩
  have hpaths : ((done.flatMap (·.files)).map Prod.fst).Nodup ↔
      ¬CopyClashes config (done.map (·.name)) := by
    rw [Compiled.paths_flatMap_files]
    exact nodup_paths_iff hnames (List.forall_mem_map.mpr hslashes)
  constructor
  · intro hclash
    exact (hran.begins.files.sublist.map Prod.fst).nodup (hpaths.mpr hclash)
  · intro hclash
    refine hran.whole.imp_left fun hwhole hnodup => ?_
    rw [hwhole] at hnodup
    exact hpaths.mp hnodup hclash

/-- If what a run has read are layouts that are called like their files, then so are its layouts. -/
theorem names_of_ran {request : BuildRequest} {home : Option Path} {config : Config}
    {done : List (Compiled config (request.directory.getD config.directory))}
    {events : List Event} (h : Ran request home config done events (.ok ()))
    (hnames : ∀ read ∈ events.filterMap Event.text?,
      (layoutOf Registry.builtin read.1 (.ok read.2)).toOption.map (·.metadata.name) =
        some (Path.stem read.1)) :
    done.map (·.name) = request.layouts.map Path.stem := by
  rw [← h.all rfl, List.map_map]
  refine List.map_congr_left fun compiled hcompiled => ?_
  have hread := h.begins.read compiled hcompiled
  have hname := hnames (compiled.path, compiled.source) (List.mem_filterMap.mpr ⟨_, hread, rfl⟩)
  rw [compiled.accepted] at hname
  exact Option.some.inj hname

/-- A world with two layout files. -/
def shelf : World :=
  { entries := [(["a.yaml".toList], .file (Text.Utf8.encode "name: a".toList)),
      (["b.yaml".toList], .file (Text.Utf8.encode "name: b".toList))] }

def shelfRequest : BuildRequest :=
  { layouts := ["a.yaml".toList, "b.yaml".toList], directory := some "out".toList }

/-- The paths of two layouts with different names are different, copies included. -/
theorem nodup_written_shelf :
    shelfRequest.answer (some "home".toList) shelf = .ok ()
      ∧ writes (shelfRequest.journal (some "home".toList) shelf) ≠ []
      ∧ ((writes (shelfRequest.journal (some "home".toList) shelf)).map Prod.fst).Nodup := by
  have hanswer : shelfRequest.answer (some "home".toList) shelf = .ok () := by decide +kernel
  have hwrites : writes (shelfRequest.journal (some "home".toList) shelf) ≠ [] := by
    decide +kernel
  have hread : ∀ read ∈ (shelfRequest.journal (some "home".toList) shelf).filterMap Event.text?,
      (layoutOf Registry.builtin read.1 (.ok read.2)).toOption.map (·.metadata.name) =
        some (Path.stem read.1) := by
    decide +kernel
  refine ⟨hanswer, hwrites, ?_⟩
  have hpaths := nodup_written_iff shelfRequest (some "home".toList) shelf
  rw [hanswer] at hpaths
  obtain ⟨config, done, hran, hnodup⟩ := hpaths.resolve_left hwrites
  have hnames : done.map (·.name) = ["a".toList, "b".toList] := names_of_ran hran hread
  have hslashes : ∀ name ∈ done.map (·.name), '/' ∉ name := by
    rw [hnames]
    decide
  rw [hnames] at hnodup
  refine (hnodup (by decide) fun compiled hcompiled =>
    hslashes _ (List.mem_map_of_mem hcompiled)).1 ?_
  rintro ⟨-, hclash⟩
  revert hclash
  decide

/-- A world with two layout files, one of them called like the copy of the other. -/
def twins : World :=
  { entries := [(["a_utf8.yaml".toList], .file (Text.Utf8.encode "name: a_utf8".toList)),
      (["a.yaml".toList], .file (Text.Utf8.encode "name: a".toList))] }

def twinsRequest : BuildRequest :=
  { layouts := ["a_utf8.yaml".toList, "a.yaml".toList] }

/-- The copy of the second layout is written over the KLC file of the first one. -/
theorem not_nodup_written_twins :
    twinsRequest.answer (some "home".toList) twins = .ok ()
      ∧ ((twinsRequest.journal (some "home".toList) twins).filterMap Event.text?).map
        (fun read => (layoutOf Registry.builtin read.1 (.ok read.2)).toOption.map
          (·.metadata.name)) = [some "a_utf8".toList, some "a".toList]
      ∧ ¬((writes (twinsRequest.journal (some "home".toList) twins)).map Prod.fst).Nodup := by
  refine ⟨?_, ?_, ?_⟩ <;> decide +kernel

/-! ## The directory -/

end BuildRequest

/-- The folder in front of the name leads to the directory itself. -/
def StaysIn (cwd : List Text) (directory : Path) (name : Text) : Prop :=
  Path.place cwd (Path.join directory (Path.folder name)) = Path.place cwd directory

theorem staysIn_of_slash_not_mem {cwd : List Text} {name : Text} (h : '/' ∉ name) :
    StaysIn cwd directory name := by
  rw [StaysIn, Path.folder_of_slash_not_mem h, Path.place_join_nil]

namespace Compiled

/-- A layout is called like its source says, or else by a name without a slash. -/
theorem name_eq_or (compiled : Compiled config directory) {layout : Layout}
    (h : Layout.ofText Registry.builtin compiled.source = .ok layout) :
    compiled.name = layout.metadata.name ∨ layout.metadata.name = [] ∧ '/' ∉ compiled.name := by
  have haccepted := compiled.accepted
  unfold layoutOf at haccepted
  simp only [h] at haccepted
  rw [name, ← Except.ok.inj haccepted, nameAfter]
  split
  · rename_i hempty
    exact Or.inr ⟨List.isEmpty_iff.mp hempty, Path.slash_not_mem_stem _⟩
  · exact Or.inl rfl

/-- Where a file of the layout lies depends on the folder of the name only. -/
theorem isChildOf_iff (compiled : Compiled config directory) {cwd : List Text}
    {file : Path × List UInt8} (h : file ∈ compiled.files) :
    Path.IsChildOf cwd file.1 directory ↔ StaysIn cwd directory compiled.name := by
  have hpath : file.1 ∈ pathsOf config directory compiled.name :=
    compiled.paths_files ▸ List.mem_map_of_mem h
  obtain ⟨ending, hending, hfile⟩ := List.mem_map.mp hpath
  obtain ⟨hslash, hlength⟩ := Output.slash_not_mem_ending hending
  rw [← hfile]
  exact Path.isChildOf_join_iff hslash hlength

end Compiled

namespace BuildRequest

variable {σ : Type} [Disk (StateM σ)]

/-- **The directory of a run.** On any disk and from any working directory, what a build writes are
files of layouts that it accepted. A file lies directly in the directory for the drivers exactly if
the folder of the layout's name leads nowhere else; this is so for all names without slashes, and
for layouts that are called like their files. -/
theorem written_isChildOf_iff (request : BuildRequest) (home : Option Path) (s : σ)
    (cwd : List Text) :
    writes (request.journal home s) = [] ∨ ∃ config, ∃ done,
      Ran request home config done (request.journal home s) (request.answer home s)
      ∧ (∀ file ∈ writes (request.journal home s), ∃ compiled ∈ done, file ∈ compiled.files
        ∧ (Path.IsChildOf cwd file.1 (request.directory.getD config.directory) ↔
          StaysIn cwd (request.directory.getD config.directory) compiled.name))
      ∧ ∀ compiled ∈ done, ('/' ∉ compiled.name ∨
          ∃ layout, Layout.ofText Registry.builtin compiled.source = .ok layout
            ∧ layout.metadata.name = []) →
        StaysIn cwd (request.directory.getD config.directory) compiled.name := by
  refine (ran_journal request home s).imp_right ?_
  rintro ⟨config, done, hran⟩
  refine ⟨config, done, hran, fun file hfile => ?_, fun compiled _ hplain => ?_⟩
  · obtain ⟨compiled, hcompiled, hmem⟩ :=
      List.mem_flatMap.mp (hran.begins.files.subset hfile)
    exact ⟨compiled, hcompiled, hmem, compiled.isChildOf_iff hmem⟩
  · rcases hplain with hname | ⟨layout, hlayout, hempty⟩
    · exact staysIn_of_slash_not_mem hname
    · rcases compiled.name_eq_or hlayout with heq | ⟨-, hname⟩
      · exact staysIn_of_slash_not_mem (by rw [heq, hempty]; exact List.not_mem_nil)
      · exact staysIn_of_slash_not_mem hname

/-- The build of the layout file of `desk`. -/
def deskRequest : BuildRequest :=
  { layouts := ["a.yaml".toList], directory := some "out".toList }

/-- The files of a layout that is called like its file lie in the directory. -/
theorem written_isChildOf_desk :
    writes (deskRequest.journal (some "home".toList) desk) ≠ []
      ∧ ∀ file ∈ writes (deskRequest.journal (some "home".toList) desk),
        Path.IsChildOf desk.workingDirectory file.1 "out".toList := by
  have hanswer : deskRequest.answer (some "home".toList) desk = .ok () := by decide +kernel
  have hwrites : writes (deskRequest.journal (some "home".toList) desk) ≠ [] := by decide +kernel
  have hread : ∀ read ∈ (deskRequest.journal (some "home".toList) desk).filterMap Event.text?,
      (layoutOf Registry.builtin read.1 (.ok read.2)).toOption.map (·.metadata.name) =
        some (Path.stem read.1) := by
    decide +kernel
  refine ⟨hwrites, fun file hfile => ?_⟩
  have hplaces := written_isChildOf_iff deskRequest (some "home".toList) desk
    desk.workingDirectory
  rw [hanswer] at hplaces
  obtain ⟨config, done, hran, hplaced, hstays⟩ := hplaces.resolve_left hwrites
  obtain ⟨compiled, hcompiled, -, hiff⟩ := hplaced file hfile
  have hnames : done.map (·.name) = ["a".toList] := names_of_ran hran hread
  have hname : compiled.name ∈ ["a".toList] := hnames ▸ List.mem_map_of_mem hcompiled
  refine hiff.mpr (hstays compiled hcompiled (Or.inl ?_))
  rw [List.mem_singleton.mp hname]
  decide

/-- A world with a layout file whose layout is called by a path. -/
def ladder : World :=
  { entries := [(["a.yaml".toList], .file (Text.Utf8.encode "name: ../escaped".toList))] }

def ladderRequest : BuildRequest :=
  { layouts := ["a.yaml".toList], directory := some "out".toList }

/-- All files of the layout are written outside the directory. -/
theorem not_written_isChildOf_ladder :
    ladderRequest.answer (some "home".toList) ladder = .ok ()
      ∧ writes (ladderRequest.journal (some "home".toList) ladder) ≠ []
      ∧ ∀ file ∈ writes (ladderRequest.journal (some "home".toList) ladder),
        ¬Path.IsChildOf ladder.workingDirectory file.1 "out".toList := by
  refine ⟨by decide +kernel, by decide +kernel, fun file hfile => ?_⟩
  have hpath : file.1 ∈ (writes (ladderRequest.journal (some "home".toList) ladder)).map Prod.fst :=
    List.mem_map_of_mem hfile
  have hoverhead : ∀ path ∈
      (writes (ladderRequest.journal (some "home".toList) ladder)).map Prod.fst,
      (Path.place ladder.workingDirectory path).length = 1 := by
    decide +kernel
  have hdirectory : Path.place ladder.workingDirectory "out".toList = ["out".toList] := by
    decide
  rintro ⟨name, hplace⟩
  have hlength := hoverhead _ hpath
  rw [hplace, hdirectory] at hlength
  cases hlength

end BuildRequest

end KeyboardLayout.Command
