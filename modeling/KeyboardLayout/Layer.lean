import KeyboardLayout.Key

/-!
# Layers

What every key produces at one level: one character or nothing. A layer is known by its view
`get`: `get_insert` says what writing a key does to it, and two layers with the same view are
equal (`Layer.ext_get`).
-/

namespace KeyboardLayout

/-- The characters of one level, one cell for each key. -/
structure Layer where
  cells : Vector (Option Char) 48
  deriving DecidableEq, Repr

namespace Layer

/-- The layer on which no key produces anything. -/
def empty : Layer :=
  ⟨Vector.replicate 48 none⟩

def get (layer : Layer) (key : Key) : Option Char :=
  layer.cells[key.index]

/-- The layer on which the key produces the symbol. -/
def insert (layer : Layer) (key : Key) (symbol : Char) : Layer :=
  ⟨layer.cells.set key.index.val (some symbol) key.index.isLt⟩

/-- The keys that produce something, with what they produce, in canonical order. -/
def entries (layer : Layer) : List (Key × Char) :=
  Key.all.filterMap fun key => (layer.get key).map (key, ·)

def produces (layer : Layer) (symbol : Char) : Bool :=
  layer.cells.any (· == some symbol)

@[simp] theorem get_empty (key : Key) : empty.get key = none := by
  simp [empty, get]

theorem get_insert (layer : Layer) (a b : Key) (symbol : Char) :
    (layer.insert a symbol).get b = if a = b then some symbol else layer.get b := by
  simp only [insert, get]
  by_cases h : a = b
  · simp [h]
  · have : a.index.val ≠ b.index.val := fun hi => h (Key.index_inj (Fin.ext hi))
    simp [h, this]

theorem ext_get {a b : Layer} (h : ∀ key, a.get key = b.get key) : a = b := by
  obtain ⟨a⟩ := a
  obtain ⟨b⟩ := b
  congr
  apply Vector.ext
  intro i hi
  obtain ⟨key, hkey⟩ := Key.exists_index ⟨i, hi⟩
  have := h key
  simpa [get, hkey] using this

end Layer

end KeyboardLayout
