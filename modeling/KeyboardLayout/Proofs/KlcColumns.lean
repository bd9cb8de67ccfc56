import KeyboardLayout.Klc
import KeyboardLayout.Proofs.BuiltinTables
import KeyboardLayout.Proofs.CodePoints
import KeyboardLayout.Proofs.DeadKeys

/-!
# The columns of Windows tables

The columns of a line stand between tabs. Whatever a key types, its row holds no tab before the
comment, so that the columns of the row are the fields it was written from (`columns_row`). On the
built-in registry every symbol can be read back as the character it stands for
(`charOf?_symbolAt`): a dead key goes by its code and an at sign, a letter or a digit by itself and
all others by their code points.
-/

namespace KeyboardLayout

namespace Text

variable {c d : Char}

theorem not_mem_hex (h : digit? 16 d = none) : d ∉ hex c := by
  intro hmem
  have := isSome_digit?_of_charOfHex? (charOfHex?_hex c) d hmem
  rw [h] at this
  cases this

theorem four_le_length_hex (c : Char) : 4 ≤ (hex c).length := by
  unfold hex
  rw [List.length_leftpad]
  omega

theorem hex_inj (h : hex c = hex d) : c = d := by
  have := congrArg charOfHex? h
  rwa [charOfHex?_hex, charOfHex?_hex, Option.some.injEq] at this

end Text

namespace Klc

/-! ## Columns -/

/-- The columns of a line. -/
def columns (line : Text) : List Text :=
  line.splitOn '\t'

theorem columns_append_tab {lead : Text} (h : '\t' ∉ lead) (rest : Text) :
    columns (lead ++ '\t' :: rest) = lead :: columns rest :=
  List.splitOn_append_cons_self_of_not_mem h rest

theorem columns_of_not_mem {line : Text} (h : '\t' ∉ line) : columns line = [line] :=
  List.splitOn_eq_singleton h

/-- The last of the joined fields may hold tabs itself. -/
theorem columns_join {fields : List Text} (h : ∀ field ∈ fields, '\t' ∉ field) (last : Text) :
    columns (Text.join ['\t'] (fields ++ [last])) = fields ++ columns last := by
  unfold Text.join
  induction fields with
  | nil => simp
  | cons field rest ih =>
      obtain ⟨hfield, hrest⟩ := List.forall_mem_cons.mp h
      have hne : rest ++ [last] ≠ [] := by simp
      obtain ⟨next, more, hnext⟩ := List.exists_cons_of_ne_nil hne
      have hih := ih hrest
      rw [hnext] at hih
      rw [List.cons_append, hnext, List.intercalate_cons_cons, List.append_assoc,
        List.singleton_append, columns_append_tab hfield, hih]
      rfl

/-! ## Symbols -/

variable {registry : Registry} {drawn : Layout}

/-- The symbol of a character that is a dead key wherever the registry has one for it. -/
def fixedSymbol (registry : Registry) (c : Char) : Text :=
  match registry.deadKey? c with
  | some dk => deadKeyCode dk ++ ['@']
  | none => if registry.isKlcLiteral c then [c] else Text.hex c

/-- What a key shows in the table depends on the character that it types and on nothing else. -/
theorem symbolAt_eq (h : drawn.Drawn registry) (key : Key) (level : Level) :
    symbolAt drawn.complete key level =
      ((drawn.symbol key level).map (fixedSymbol registry)).getD nothing := by
  unfold symbolAt
  rw [Layout.symbol_complete]
  cases hc : drawn.symbol key level with
  | none => rfl
  | some c =>
      show symbol drawn.complete c = fixedSymbol registry c
      unfold symbol fixedSymbol
      rw [h.deadKey?_complete hc, Layout.registry_complete, h.registry_eq]
      cases registry.deadKey? c with
      | none => rfl
      | some dk =>
          show deadKeyCode (drawn.completeDeadKey dk) ++ ['@'] = deadKeyCode dk ++ ['@']
          rw [deadKeyCode, deadKeyCode, Layout.altSpace_completeDeadKey]

/-- The character that a symbol stands for on the built-in registry. -/
def charOf? : Text → Option Char
  | [c] => some c
  | t =>
    if t.getLast? = some '@' then
      (Registry.builtin.deadKeys.find? fun dk => deadKeyCode dk == t.dropLast).map (·.marker)
    else Text.charOfHex? t

theorem charOf?_hex (c : Char) : charOf? (Text.hex c) = some c := by
  have hlength := Text.four_le_length_hex c
  have hlast : (Text.hex c).getLast? ≠ some '@' := fun h =>
    Text.not_mem_hex rfl (List.mem_of_getLast? h)
  unfold charOf?
  split
  · rename_i heq
    rw [heq, List.length_singleton] at hlength
    omega
  · rw [if_neg hlast, Text.charOfHex?_hex]

theorem charOf?_deadKeyCode : ∀ dk ∈ Registry.builtin.deadKeys,
    charOf? (deadKeyCode dk ++ ['@']) = some dk.marker := by
  decide

theorem charOf?_nothing : charOf? nothing = none := by
  decide

theorem charOf?_fixedSymbol (c : Char) : charOf? (fixedSymbol Registry.builtin c) = some c := by
  unfold fixedSymbol
  cases hdk : Registry.builtin.deadKey? c with
  | some dk =>
      obtain rfl := Registry.marker_of_deadKey? hdk
      exact charOf?_deadKeyCode dk (List.mem_of_find?_eq_some hdk)
  | none =>
      show charOf? (if _ then _ else _) = _
      split
      · rfl
      · exact charOf?_hex c

/-- The symbols of a table are read back as what the keys type. -/
theorem charOf?_symbolAt (h : drawn.Drawn Registry.builtin) (key : Key) (level : Level) :
    charOf? (symbolAt drawn.complete key level) = drawn.symbol key level := by
  rw [symbolAt_eq h]
  cases drawn.symbol key level with
  | none => exact charOf?_nothing
  | some c => exact charOf?_fixedSymbol c

/-! ## Rows -/

theorem tab_not_mem_fixedSymbol (c : Char) : '\t' ∉ fixedSymbol Registry.builtin c := by
  have hliteral : Registry.builtin.isKlcLiteral '\t' = false := by decide
  unfold fixedSymbol
  split
  · rw [List.mem_append, not_or]
    exact ⟨Text.not_mem_hex rfl, by decide⟩
  · split
    · rename_i hc
      rintro hmem
      rw [← List.mem_singleton.mp hmem, hliteral] at hc
      cases hc
    · exact Text.not_mem_hex rfl

theorem tab_not_mem_symbolAt (h : drawn.Drawn Registry.builtin) (key : Key) (level : Level) :
    '\t' ∉ symbolAt drawn.complete key level := by
  have hnothing : '\t' ∉ nothing := by decide
  rw [symbolAt_eq h]
  cases drawn.symbol key level with
  | none => exact hnothing
  | some c => exact tab_not_mem_fixedSymbol c

theorem tab_not_mem_codes : ∀ key ∈ Key.all,
    '\t' ∉ (Registry.builtin.keyCodes key).klcScan
      ∧ '\t' ∉ (Registry.builtin.keyCodes key).klcVirtual := by
  decide

/-- The fields of a row before its comment. -/
def TableRow.leading (r : TableRow) : List Text :=
  [r.scan, r.virtualKey, if r.caps then ['1'] else ['0'], r.base, r.shift, nothing, r.altGr,
    r.altGrShift]

/-- The columns of a row are its fields; only the comment may be cut further. -/
theorem columns_row (h : drawn.Drawn Registry.builtin) (key : Key) :
    columns (row drawn.complete key).text =
      (row drawn.complete key).leading ++ columns (comment drawn.complete key) := by
  obtain ⟨hscan, hvirtual⟩ := tab_not_mem_codes key (Key.mem_all key)
  have hfixed : '\t' ∉ ['1'] ∧ '\t' ∉ ['0'] ∧ '\t' ∉ nothing := by decide
  suffices hleading : ∀ field ∈ (row drawn.complete key).leading, '\t' ∉ field from
    columns_join hleading _
  simp only [TableRow.leading, row, List.forall_mem_cons, Layout.registry_complete, h.registry_eq]
  have hsymbol := tab_not_mem_symbolAt h key
  refine ⟨hscan, hvirtual, ?_, hsymbol .base, hsymbol .shift, hfixed.2.2, hsymbol .altGr,
    hsymbol .altGrShift, fun _ hnil => absurd hnil List.not_mem_nil⟩
  split
  · exact hfixed.1
  · exact hfixed.2.1

end Klc

end KeyboardLayout
