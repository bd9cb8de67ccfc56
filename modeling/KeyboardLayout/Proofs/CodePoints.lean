import KeyboardLayout.Text.Number

/-!
# Code points read back

A code point is written in hexadecimal, filled up with zeros to four digits, in lowercase
(`Text.hex`) or in uppercase (`Text.hexUpper`). Either way the digits name the character
(`charOfHex?_hex`, `charOfHex?_hexUpper`), so that different characters have different codes.
-/

namespace KeyboardLayout.Text

/-- One more digit of a number. -/
def appendDigit? (base n : Nat) (c : Char) : Option Nat :=
  (digit? base c).map (base * n + ·)

theorem natural?_eq_foldlM {t : Text} (h : t ≠ []) (base : Nat) :
    natural? base t = t.foldlM (appendDigit? base) 0 := by
  cases t with
  | nil => exact absurd rfl h
  | cons c rest => rfl

theorem digit?_digitChar :
    ∀ d < 16, digit? 16 d.digitChar = some d ∧ digit? 16 d.digitChar.toUpper = some d := by
  decide

/-- The digits of a number are read as the number, in any spelling of the single digits. -/
theorem foldlM_toDigits {spell : Char → Char}
    (h : ∀ d < 16, digit? 16 (spell d.digitChar) = some d) (n : Nat) :
    ((Nat.toDigits 16 n).map spell).foldlM (appendDigit? 16) 0 = some n := by
  induction n using Nat.strongRecOn with
  | ind n ih =>
      rw [Nat.toDigits_eq_if (by decide)]
      split
      · rename_i hlt
        simp [appendDigit?, h n hlt]
      · rename_i hge
        have hdiv : n / 16 < n := Nat.div_lt_self (by omega) (by decide)
        have hmod : n % 16 < 16 := Nat.mod_lt n (by decide)
        rw [List.map_append, List.foldlM_append, ih (n / 16) hdiv]
        have hn : 16 * (n / 16) + n % 16 = n := Nat.div_add_mod n 16
        simp [appendDigit?, h (n % 16) hmod, hn]

/-- Zeros in front of the digits change nothing. -/
theorem foldlM_leftpad {spell : Char → Char}
    (h : ∀ d < 16, digit? 16 (spell d.digitChar) = some d) (width n : Nat) :
    (((Nat.toDigits 16 n).leftpad width '0').map spell).foldlM (appendDigit? 16) 0 = some n := by
  have hzero : digit? 16 (spell '0') = some 0 := h 0 (by decide)
  have hzeros : ∀ k, ((List.replicate k '0').map spell).foldlM (appendDigit? 16) 0 = some 0 := by
    intro k
    induction k with
    | zero => rfl
    | succ k ih => simpa [List.replicate_succ, appendDigit?, hzero] using ih
  rw [List.leftpad, List.map_append, List.foldlM_append, hzeros]
  exact foldlM_toDigits h n

theorem charOfCode?_toNat (c : Char) : charOfCode? c.toNat = some c := by
  have h : c.toNat.isValidChar := c.valid
  rw [charOfCode?, dif_pos h]
  rfl

/-- The code of a character is read as the character, in any spelling of the single digits. -/
theorem charOfHex?_map_hex {spell : Char → Char}
    (h : ∀ d < 16, digit? 16 (spell d.digitChar) = some d) (c : Char) :
    charOfHex? ((hex c).map spell) = some c := by
  have hne : (hex c).map spell ≠ [] := by
    unfold hex List.leftpad
    rw [Ne, List.map_eq_nil_iff]
    exact List.append_ne_nil_of_right_ne_nil _ Nat.toDigits_ne_nil
  rw [charOfHex?, natural?_eq_foldlM hne, hex, foldlM_leftpad h]
  exact charOfCode?_toNat c

theorem charOfHex?_hex (c : Char) : charOfHex? (hex c) = some c := by
  have h : charOfHex? ((hex c).map id) = some c :=
    charOfHex?_map_hex (fun d hd => (digit?_digitChar d hd).1) c
  rwa [List.map_id] at h

theorem charOfHex?_hexUpper (c : Char) : charOfHex? (hexUpper c) = some c :=
  charOfHex?_map_hex (fun d hd => (digit?_digitChar d hd).2) c

/-! ## The characters of a code -/

/-- A number is written with digits only. -/
theorem isSome_digit?_of_foldlM {base start n : Nat} {t : Text}
    (h : t.foldlM (appendDigit? base) start = some n) :
    ∀ c ∈ t, (digit? base c).isSome = true := by
  induction t generalizing start with
  | nil => simp
  | cons c rest ih =>
      rw [List.foldlM_cons, Option.bind_eq_bind, Option.bind_eq_some_iff] at h
      obtain ⟨m, hm, hrest⟩ := h
      obtain ⟨d, hd, -⟩ := Option.map_eq_some_iff.mp hm
      exact List.forall_mem_cons.mpr ⟨by rw [hd]; rfl, ih hrest⟩

theorem isSome_digit?_of_charOfHex? {t : Text} {c : Char} (h : charOfHex? t = some c) :
    ∀ d ∈ t, (digit? 16 d).isSome = true := by
  obtain ⟨n, hn, -⟩ := Option.bind_eq_some_iff.mp h
  cases t with
  | nil => simp
  | cons d rest => exact isSome_digit?_of_foldlM hn

end KeyboardLayout.Text
