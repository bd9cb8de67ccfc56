import KeyboardLayout.Registry.Builtin

/-!
# The built-in tables, spelled out

The built-in tables hold their texts as string literals, which would be decoded anew by every check
that goes through a table. Here they are decoded once: `spelledDeadKeys` and `spelledNames` are the
same tables as lists of characters.
-/

namespace KeyboardLayout.Registry

theorem cons_accent_eq {marker glyph : Char} {name xkb base alt : String}
    {name' xkb' base' alt' : Text} {rest rest' : List DeadKey} (hname : name = String.ofList name')
    (hxkb : xkb = String.ofList xkb') (hbase : base = String.ofList base')
    (halt : alt = String.ofList alt') (hrest : rest = rest') :
    Builtin.accent marker name glyph xkb base alt :: rest =
      ⟨marker, name', glyph, xkb', glyph, glyph, .table, base', alt'⟩ :: rest' := by
  rw [Builtin.accent, hname, hxkb, hbase, halt, hrest]
  simp only [String.toList_ofList]

theorem cons_eq {dk : DeadKey} {rest rest' : List DeadKey} (h : rest = rest') :
    dk :: rest = dk :: rest' :=
  congrArg _ h

theorem cons_row_eq {c : Char} {name : String} {name' : Text} {rows : List (Char × String)}
    {rest : List (Char × Text)} (hname : name = String.ofList name')
    (hrest : rows.map (fun (c, name) => (c, name.toList)) = rest) :
    ((c, name) :: rows).map (fun (c, name) => (c, name.toList)) = (c, name') :: rest := by
  rw [List.map_cons, hrest, hname]
  simp only [String.toList_ofList]

/-- The built-in dead keys. -/
def spelledDeadKeys : { keys : List DeadKey // Builtin.deadKeys = keys } := by
  apply Subtype.mk
  unfold Builtin.deadKeys
  apply cons_eq
  repeat apply cons_accent_eq rfl rfl rfl rfl
  rfl

/-- The built-in keysym names. -/
def spelledNames : { rows : List (Char × Text) // Builtin.xkbNames = rows } := by
  apply Subtype.mk
  unfold Builtin.xkbNames
  repeat apply cons_row_eq rfl
  rfl

theorem builtin_deadKeys : builtin.deadKeys = spelledDeadKeys.val :=
  spelledDeadKeys.property

theorem builtin_xkbNames : builtin.xkbNames = spelledNames.val :=
  spelledNames.property

end KeyboardLayout.Registry
