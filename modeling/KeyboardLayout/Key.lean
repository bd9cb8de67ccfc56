import KeyboardLayout.Text.Basic

/-!
# Keys

The 48 positions of a board, named as XKB names them: `ae01` is the key of the digit one, `ad01`
the first key of the row below it. Every list of keys follows the sections below, and a key's
number is its place in that order (`Key.all_getElem`).
-/

namespace KeyboardLayout

/-- A key position. -/
inductive Key
  | ae01 | ae02 | ae03 | ae04 | ae05 | ae06 | ae07 | ae08 | ae09 | ae10
  | ad01 | ad02 | ad03 | ad04 | ad05 | ad06 | ad07 | ad08 | ad09 | ad10
  | ac01 | ac02 | ac03 | ac04 | ac05 | ac06 | ac07 | ac08 | ac09 | ac10
  | ab01 | ab02 | ab03 | ab04 | ab05 | ab06 | ab07 | ab08 | ab09 | ab10
  | tlde | ae11 | ae12 | ad11 | ad12 | ac11 | bksl | lsgt
  deriving DecidableEq, Repr

/-- A titled group of keys, left to right. -/
structure KeySection where
  title : Text
  keys : List Key
  deriving DecidableEq, Repr

/-- A name that no key has. -/
structure UnknownKey where
  name : Text
  deriving DecidableEq, Repr

def UnknownKey.message (e : UnknownKey) : Text :=
  "Unknown key identifier: ".toList ++ e.name

namespace Key

/-- The sections of the board, in the order of every export. -/
def sections : List KeySection := [
  ⟨"Digits".toList,
    [.ae01, .ae02, .ae03, .ae04, .ae05, .ae06, .ae07, .ae08, .ae09, .ae10]⟩,
  ⟨"Letters, first row".toList,
    [.ad01, .ad02, .ad03, .ad04, .ad05, .ad06, .ad07, .ad08, .ad09, .ad10]⟩,
  ⟨"Letters, second row".toList,
    [.ac01, .ac02, .ac03, .ac04, .ac05, .ac06, .ac07, .ac08, .ac09, .ac10]⟩,
  ⟨"Letters, third row".toList,
    [.ab01, .ab02, .ab03, .ab04, .ab05, .ab06, .ab07, .ab08, .ab09, .ab10]⟩,
  ⟨"Pinky keys".toList,
    [.tlde, .ae11, .ae12, .ad11, .ad12, .ac11, .bksl, .lsgt]⟩
]

/-- All keys in canonical order. -/
def all : List Key :=
  sections.flatMap (·.keys)

/-- The place of the key in canonical order. -/
def index (key : Key) : Fin 48 :=
  ⟨key.ctorIdx, by cases key <;> decide⟩

def name : Key → Text
  | ae01 => "ae01".toList
  | ae02 => "ae02".toList
  | ae03 => "ae03".toList
  | ae04 => "ae04".toList
  | ae05 => "ae05".toList
  | ae06 => "ae06".toList
  | ae07 => "ae07".toList
  | ae08 => "ae08".toList
  | ae09 => "ae09".toList
  | ae10 => "ae10".toList
  | ad01 => "ad01".toList
  | ad02 => "ad02".toList
  | ad03 => "ad03".toList
  | ad04 => "ad04".toList
  | ad05 => "ad05".toList
  | ad06 => "ad06".toList
  | ad07 => "ad07".toList
  | ad08 => "ad08".toList
  | ad09 => "ad09".toList
  | ad10 => "ad10".toList
  | ac01 => "ac01".toList
  | ac02 => "ac02".toList
  | ac03 => "ac03".toList
  | ac04 => "ac04".toList
  | ac05 => "ac05".toList
  | ac06 => "ac06".toList
  | ac07 => "ac07".toList
  | ac08 => "ac08".toList
  | ac09 => "ac09".toList
  | ac10 => "ac10".toList
  | ab01 => "ab01".toList
  | ab02 => "ab02".toList
  | ab03 => "ab03".toList
  | ab04 => "ab04".toList
  | ab05 => "ab05".toList
  | ab06 => "ab06".toList
  | ab07 => "ab07".toList
  | ab08 => "ab08".toList
  | ab09 => "ab09".toList
  | ab10 => "ab10".toList
  | tlde => "tlde".toList
  | ae11 => "ae11".toList
  | ae12 => "ae12".toList
  | ad11 => "ad11".toList
  | ad12 => "ad12".toList
  | ac11 => "ac11".toList
  | bksl => "bksl".toList
  | lsgt => "lsgt".toList

/-- The key of a name, whatever the case of its letters. -/
def ofName? (name : Text) : Option Key :=
  all.find? fun key => key.name == name.map Char.toLower

/-- The key of a name, or the name if it is no key's. -/
def ofName (name : Text) : Except UnknownKey Key :=
  match ofName? name with
  | some key => .ok key
  | none => .error ⟨name⟩

/-- The key numbered `i` is the one at place `i`. -/
theorem all_getElem (key : Key) : all[key.index.val]? = some key := by
  cases key <;> rfl

theorem index_inj {a b : Key} (h : a.index = b.index) : a = b :=
  Option.some.inj (by rw [← all_getElem a, ← all_getElem b, h])

theorem exists_index (i : Fin 48) : ∃ key : Key, key.index = i := by
  have h : ∀ i : Fin 48, ∃ key ∈ all, key.index = i := by decide
  obtain ⟨key, -, hk⟩ := h i
  exact ⟨key, hk⟩

theorem mem_all (key : Key) : key ∈ all :=
  List.mem_of_getElem? (all_getElem key)

end Key

end KeyboardLayout
