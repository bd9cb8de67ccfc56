import KeyboardLayout.Disk

/-!
# Journals

A journal tells what a program asks of a disk and what the disk answers, in this order. The disk may
be any whose answers depend on a state. Keeping a journal changes neither the answers nor the state,
and what is in it is shown program by program, along the binds (`Traces.bind`).
-/

namespace KeyboardLayout

/-- An operation of a disk with its answer. -/
inductive Event
  /-- Whether anything, or a directory, is there. -/
  | asked (path : Path) (answer : Bool)
  | looked (path : Path) (isFile : Bool)
  | read (path : Path) (content : Except ReadError Text)
  | made (path : Path) (answer : Except SystemError Unit)
  | wrote (path : Path) (data : List UInt8) (answer : Except SystemError Unit)
  | printed (line : Text)

namespace Event

/-- The path that was written, with the data. -/
def write? : Event → Option (Path × List UInt8)
  | wrote path data _ => some (path, data)
  | _ => none

/-- The path that was read, with the text. -/
def text? : Event → Option (Path × Text)
  | read path (.ok t) => some (path, t)
  | _ => none

/-- Something was made or written. -/
def Changes : Event → Prop
  | made _ _ | wrote _ _ _ => True
  | _ => False

/-- A directory could not be made or a file not be written. -/
def Refused : Event → Prop
  | made _ (.error _) | wrote _ _ (.error _) => True
  | _ => False

end Event

/-- The writes of a journal, in order. -/
def writes (events : List Event) : List (Path × List UInt8) :=
  events.filterMap Event.write?

@[simp] theorem writes_append (events more : List Event) :
    writes (events ++ more) = writes events ++ writes more :=
  List.filterMap_append

theorem unwritten {events more : List Event} (h : writes events = []) (hmore : writes more = []) :
    writes (events ++ more) = [] := by
  rw [writes_append, h, hmore]
  rfl

/-! ## Keeping a journal -/

section

variable {σ α β : Type}

/-- The operation with its answer put down. -/
def record (event : α → Event) (operation : StateM σ α) : StateM (σ × List Event) α :=
  modifyGet fun state =>
    let (answer, after) := operation.run state.1
    (answer, after, state.2 ++ [event answer])

instance [Disk (StateM σ)] : Disk (StateM (σ × List Event)) where
  isFile path := record (.looked path) (Disk.isFile path)
  isDirectory path := record (.asked path) (Disk.isDirectory path)
  isThere path := record (.asked path) (Disk.isThere path)
  read path := record (.read path) (Disk.read path)
  makeDirectory path := record (.made path) (Disk.makeDirectory path)
  write path data := record (.wrote path data) (Disk.write path data)
  print line := record (fun _ => .printed line) (Disk.print line)

/-- With a journal the program answers what it answers without, leaves the same state, and puts down
events that go with the answer. -/
def Traces (journaled : StateM (σ × List Event) α) (plain : StateM σ α)
    (goes : List Event → α → Prop) : Prop :=
  ∀ s journal, ∃ events,
    journaled.run (s, journal) = ((plain.run s).1, (plain.run s).2, journal ++ events)
      ∧ goes events (plain.run s).1

variable {x : StateM (σ × List Event) α} {y : StateM σ α} {f : α → StateM (σ × List Event) β}
  {g : α → StateM σ β} {P Q : List Event → α → Prop} {R : List Event → β → Prop}

theorem traces_record (event : α → Event) (operation : StateM σ α) :
    Traces (record event operation) operation fun events answer => events = [event answer] :=
  fun _ _ => ⟨_, rfl, rfl⟩

theorem traces_pure {a : α} (h : P [] a) : Traces (pure a) (pure a : StateM σ α) P := by
  intro s journal
  refine ⟨[], ?_, h⟩
  rw [List.append_nil]
  rfl

theorem Traces.mono (h : Traces x y P) (hgoes : ∀ events a, P events a → Q events a) :
    Traces x y Q := by
  intro s journal
  obtain ⟨events, hrun, hevents⟩ := h s journal
  exact ⟨events, hrun, hgoes _ _ hevents⟩

/-- What comes first is put down first. -/
theorem Traces.bind (hx : Traces x y P)
    (hf : ∀ first a, P first a → Traces (f a) (g a) fun behind => R (first ++ behind)) :
    Traces (x >>= f) (y >>= g) R := by
  intro s journal
  obtain ⟨first, hfirst, hgoes⟩ := hx s journal
  obtain ⟨behind, hbehind, hlast⟩ := hf first _ hgoes (y.run s).2 (journal ++ first)
  refine ⟨first ++ behind, ?_, hlast⟩
  rw [StateT.run_bind, hfirst, ← List.append_assoc]
  exact hbehind

end

/-! ## Making directories -/

namespace Disk

variable {σ : Type} [Disk (StateM σ)]

theorem traces_orThere (path : Path) (e : SystemError) :
    Traces (orThere path e) (orThere path e : StateM σ (Except SystemError Unit))
      fun events _ => writes events = [] := by
  refine (traces_record _ _).bind ?_
  rintro _ there rfl
  cases there with
  | true => exact traces_pure rfl
  | false => exact traces_pure rfl

/-- What making directories puts down: no file is written, and if it fails there is a refusal. -/
def Making (events : List Event) (result : Except SystemError Unit) : Prop :=
  writes events = [] ∧ ∀ e, result = .error e → ∃ event ∈ events, event.Refused

theorem Making.behind {first events : List Event} {result : Except SystemError Unit}
    (hfirst : writes first = []) (h : Making events result) : Making (first ++ events) result := by
  obtain ⟨hevents, hrefused⟩ := h
  refine ⟨unwritten hfirst hevents, fun e he => ?_⟩
  obtain ⟨event, hevent, hrefusal⟩ := hrefused e he
  exact ⟨event, List.mem_append_right _ hevent, hrefusal⟩

theorem Making.of_refused {path : Path} {e : SystemError} {events : List Event}
    {result : Except SystemError Unit} (h : writes events = []) :
    Making ([.made path (.error e)] ++ events) result :=
  ⟨unwritten rfl h, fun _ _ => ⟨_, List.mem_append_left _ (List.mem_singleton_self _), trivial⟩⟩

theorem traces_ensureAll (paths : List Path) :
    Traces (ensureAll paths) (ensureAll paths : StateM σ (Except SystemError Unit)) Making := by
  induction paths with
  | nil => exact traces_pure ⟨rfl, fun _ h => nomatch h⟩
  | cons path rest ih =>
      refine (traces_record _ _).bind ?_
      rintro _ answer rfl
      cases answer with
      | ok _ => exact ih.mono fun _ _ hrest => hrest.behind rfl
      | error e =>
          refine (traces_orThere path e).bind ?_
          intro asked there hasked
          cases there with
          | ok _ => exact ih.mono fun _ _ hrest => (hrest.behind hasked).behind rfl
          | error e => exact traces_pure (.of_refused (unwritten hasked rfl))

theorem traces_createDirectories (path : Path) :
    Traces (createDirectories path) (createDirectories path : StateM σ (Except SystemError Unit))
      Making := by
  by_cases hempty : path.isEmpty
  · unfold createDirectories
    rw [if_pos hempty, if_pos hempty]
    exact traces_pure ⟨rfl, fun _ h => nomatch h⟩
  · unfold createDirectories
    rw [if_neg hempty, if_neg hempty]
    refine (traces_record _ _).bind ?_
    rintro _ answer rfl
    cases answer with
    | ok _ => exact traces_pure ⟨rfl, fun _ h => nomatch h⟩
    | error e =>
      cases e with
      | notFound => exact (traces_ensureAll _).mono fun _ _ h => h.behind rfl
      | _ => exact (traces_orThere path _).mono fun _ _ h => .of_refused h

end Disk

end KeyboardLayout
