import KeyboardLayout.Registry.Builtin.Codes
import KeyboardLayout.Registry.Builtin.DeadKeys
import KeyboardLayout.Registry.Builtin.Geometries
import KeyboardLayout.Registry.Builtin.Symbols
import KeyboardLayout.Registry.Basic

/-!
# The built-in registry
-/

namespace KeyboardLayout.Registry

/-- The registry that every command works with. -/
def builtin : Registry where
  geometries := Builtin.geometries
  deadKeys := Builtin.deadKeys
  keyCodes := Builtin.keyCodes
  xkbNames := Builtin.xkbNames
  klcLiterals := Builtin.klcLiterals

end KeyboardLayout.Registry
