import KeyboardLayout.Key

/-!
# Key codes

The names that each target has for a key.
-/

namespace KeyboardLayout

structure KeyCodes where
  /-- The Windows scan code, in hexadecimal. -/
  klcScan : Text
  /-- The name of the Windows virtual key. -/
  klcVirtual : Text
  /-- The macOS virtual key code. -/
  mac : Nat
  /-- The browser's code of the key. -/
  web : Text
  deriving DecidableEq, Repr

end KeyboardLayout
