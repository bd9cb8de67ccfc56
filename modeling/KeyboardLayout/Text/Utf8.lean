import KeyboardLayout.Text.Basic

/-!
# UTF-8

The encoding of all files but the Windows sources.
-/

namespace KeyboardLayout.Text.Utf8

def encode (t : Text) : List UInt8 :=
  (String.ofList t).toByteArray.data.toList

def decode? (data : List UInt8) : Option Text :=
  (String.fromUTF8? ⟨data.toArray⟩).map String.toList

end KeyboardLayout.Text.Utf8
