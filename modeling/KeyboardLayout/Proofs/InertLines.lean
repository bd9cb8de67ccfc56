import KeyboardLayout.Proofs.CodePoints
import KeyboardLayout.Proofs.Tokens
import KeyboardLayout.Text.Xml

/-!
# Lines that replacing leaves alone

A text is loose if no marker and no token can begin in it: no colon stands before another, no
dollar sign before a brace. A loose line is inert, and verbatim if it holds no combining mark
either, so that padding leaves it alone too. What can be said of the characters of a text is said by
`Written`, of which all of these are cases; written texts can be put together wherever no such pair
can arise (`Written.append`).
-/

namespace KeyboardLayout.Text

/-- Neither a marker nor a token has the one character before the other. -/
def Harmless (a b : Char) : Prop :=
  ¬(a = ':' ∧ b = ':') ∧ ¬(a = '$' ∧ b = '\x7b')

/-- No marker and no token can begin in the text. -/
def Loose (t : Text) : Prop :=
  t.IsChain Harmless

/-- The text is loose and consists of such characters. -/
structure Written (p : Char → Prop) (t : Text) : Prop where
  loose : Loose t
  all : ∀ c ∈ t, p c

/-- The character can stand in a line that padding leaves alone. -/
def Inline (c : Char) : Prop :=
  c ≠ '\n' ∧ isMark c = false

/-- No marker and no token can begin in the line. -/
structure Inert (t : Text) : Prop where
  feed : '\n' ∉ t
  chain : t.IsChain Harmless

/-- The line holds no mark that would be padded either. -/
structure Verbatim (t : Text) : Prop extends Inert t where
  markless : ∀ c ∈ t, isMark c = false

/-- Nothing in the text is part of a marker, of the start of a token or of a padded mark. -/
def Quiet (t : Text) : Prop :=
  ∀ c ∈ t, c ∉ [':', '$', '\n'] ∧ isMark c = false

/-- Any text can follow. -/
def Leads (s : Text) : Prop :=
  ∀ a ∈ s.getLast?, a ∉ [':', '$']

/-- The text can follow any other. -/
def Follows (t : Text) : Prop :=
  ∀ b ∈ t.head?, b ∉ [':', '\x7b']

instance : DecidableRel Harmless := fun _ _ => inferInstanceAs (Decidable (_ ∧ _))

instance (c : Char) : Decidable (Inline c) := inferInstanceAs (Decidable (_ ∧ _))

instance (t : Text) : Decidable (Loose t) := inferInstanceAs (Decidable (t.IsChain Harmless))

instance (t : Text) : Decidable (Inert t) :=
  decidable_of_iff ('\n' ∉ t ∧ t.IsChain Harmless) ⟨fun h => ⟨h.1, h.2⟩, fun h => ⟨h.feed, h.chain⟩⟩

-- The instances are named: with all of `Char` in scope, another one goes through every character.
instance (t : Text) : Decidable (Verbatim t) :=
  have : Decidable (∀ c ∈ t, isMark c = false) := List.decidableBAll _ t
  decidable_of_iff (Inert t ∧ ∀ c ∈ t, isMark c = false)
    ⟨fun h => ⟨h.1, h.2⟩, fun h => ⟨h.toInert, h.markless⟩⟩

instance (t : Text) : Decidable (Quiet t) := List.decidableBAll _ t

instance (t : Text) : Decidable (Leads t) := Option.decidableForallMem t.getLast?

instance (t : Text) : Decidable (Follows t) := Option.decidableForallMem t.head?

variable {s t : Text} {c : Char} {p : Char → Prop}

/-! ## Putting texts together -/

theorem verbatim_iff : Verbatim t ↔ Written Inline t := by
  constructor
  · intro h
    exact ⟨h.chain, fun c hc => ⟨fun heq => h.feed (heq ▸ hc), h.markless c hc⟩⟩
  · intro h
    exact ⟨⟨fun hmem => (h.all _ hmem).1 rfl, h.loose⟩, fun c hc => (h.all c hc).2⟩

theorem Inert.loose (h : Inert t) : Loose t := h.chain

theorem Loose.append (hs : Loose s) (ht : Loose t) (h : Leads s ∨ Follows t) : Loose (s ++ t) := by
  refine List.isChain_append.mpr ⟨hs, ht, fun a ha b hb => ?_⟩
  rcases h with h | h
  · have := h a ha
    exact ⟨fun heq => this (by simp [heq.1]), fun heq => this (by simp [heq.1])⟩
  · have := h b hb
    exact ⟨fun heq => this (by simp [heq.2]), fun heq => this (by simp [heq.2])⟩

theorem Written.append (hs : Written p s) (ht : Written p t) (h : Leads s ∨ Follows t) :
    Written p (s ++ t) :=
  ⟨hs.loose.append ht.loose h, fun c hc => (List.mem_append.mp hc).elim (hs.all c) (ht.all c)⟩

theorem Leads.append (ht : Leads t) (hne : t ≠ []) : Leads (s ++ t) := by
  intro a ha
  rw [List.getLast?_append_of_ne_nil _ hne] at ha
  exact ht a ha

theorem Follows.append (hs : Follows s) (hne : s ≠ []) : Follows (s ++ t) := by
  intro b hb
  rw [List.head?_append_of_ne_nil _ hne] at hb
  exact hs b hb

theorem Written.of_isInfix (h : Written p t) (hs : s <:+: t) : Written p s :=
  ⟨ List.IsChain.infix h.loose hs, fun c hc => h.all c (hs.subset hc)⟩

theorem Written.nil : Written p [] :=
  ⟨List.isChain_nil, fun _ hc => absurd hc List.not_mem_nil⟩

theorem Follows.nil : Follows [] := by decide

theorem written_singleton : Written p [c] ↔ p c :=
  ⟨fun h => h.all c (List.mem_singleton_self c),
    fun h => ⟨List.isChain_singleton c, fun _ hd => List.mem_singleton.mp hd ▸ h⟩⟩

theorem Quiet.append (hs : Quiet s) (ht : Quiet t) : Quiet (s ++ t) := fun c hc =>
  (List.mem_append.mp hc).elim (hs c) (ht c)

theorem Quiet.leads (h : Quiet t) : Leads t := fun a ha => by
  have := (h a (List.mem_of_getLast? ha)).1
  simp_all

theorem Quiet.verbatim (h : Quiet t) : Verbatim t := by
  refine ⟨⟨fun hmem => (h _ hmem).1 (by simp), List.isChain_iff_getElem.mpr fun i hi => ?_⟩,
    fun c hc => (h c hc).2⟩
  have := (h _ (List.getElem_mem (Nat.lt_of_succ_lt hi))).1
  exact ⟨fun heq => this (by simp [heq.1]), fun heq => this (by simp [heq.1])⟩

theorem quiet_join {separator : Text} (hseparator : Quiet separator) {fields : List Text}
    (h : ∀ field ∈ fields, Quiet field) : Quiet (join separator fields) := by
  unfold join
  induction fields with
  | nil => exact fun c hc => absurd hc List.not_mem_nil
  | cons field rest ih =>
      have hfield := h field (List.mem_cons_self ..)
      have hrest := ih fun field hfield => h field (List.mem_cons_of_mem _ hfield)
      cases rest with
      | nil => simpa using hfield
      | cons next rest =>
          rw [List.intercalate_cons_cons]
          exact (hfield.append hseparator).append hrest

theorem Quiet.padRight (h : Quiet t) (width : Nat) : Quiet (padRight width t) := by
  have hspace : Quiet [' '] := by decide
  refine h.append fun c hc => ?_
  rw [List.eq_of_mem_replicate hc]
  exact hspace ' ' (by simp)

/-! ## Among other characters -/

/-- Inline characters are among them. -/
def Admits (p : Char → Prop) : Prop :=
  ∀ c, Inline c → p c

/-- All characters. -/
def Always (_ : Char) : Prop :=
  True

theorem admits_always : Admits Always := fun _ _ => trivial

theorem Loose.written (h : Loose t) : Written Always t :=
  ⟨h, fun _ _ => trivial⟩

section

variable (hp : Admits p)
include hp

theorem Verbatim.written (h : Verbatim t) : Written p t :=
  ⟨h.chain, fun c hc => hp c ((verbatim_iff.mp h).all c hc)⟩

theorem Quiet.written (h : Quiet t) : Written p t :=
  h.verbatim.written hp

theorem Written.between {opening closing : Text} (h : Written p t) (hopening : Quiet opening)
    (hclosing : Quiet closing ∧ Follows closing) : Written p (opening ++ t ++ closing) :=
  ((hopening.written hp).append h (Or.inl hopening.leads)).append (hclosing.1.written hp)
    (Or.inr hclosing.2)

/-- Fields between separators that begin nothing. -/
theorem written_join {separator : Text} (hseparator : Quiet separator)
    (hfollows : Follows separator) (hne : separator ≠ []) {fields : List Text}
    (h : ∀ field ∈ fields, Written p field) : Written p (join separator fields) := by
  unfold join
  induction fields with
  | nil => exact Written.nil
  | cons field rest ih =>
      have hfield := h field (List.mem_cons_self ..)
      have hrest := ih fun field hfield => h field (List.mem_cons_of_mem _ hfield)
      cases rest with
      | nil => simpa using hfield
      | cons next rest =>
          rw [List.intercalate_cons_cons, List.append_assoc]
          exact hfield.append
            ((hseparator.written hp).append hrest (Or.inl hseparator.leads))
            (Or.inr (hfollows.append hne))

end

/-! ## Characters -/

theorem isMark_eq_false_of_lt (h : c.toNat < 0x300) : isMark c = false := by
  rw [isMark, List.any_eq_false]
  intro block hblock
  have hlow : ∀ block ∈ markBlocks, 0x300 ≤ block.1 := by decide
  have := hlow block hblock
  simp
  omega

theorem toNat_lt_of_digit? (h : (digit? 16 c).isSome = true) : c.toNat < 0x80 := by
  have hle : ∀ b : Char, c ≤ b → c.toNat ≤ b.toNat := fun b hb => hb
  have hbounds : '9'.toNat = 57 ∧ 'f'.toNat = 102 ∧ 'F'.toNat = 70 := ⟨rfl, rfl, rfl⟩
  unfold digit? at h
  simp only at h
  split at h
  · rename_i hdigit
    rw [Char.isDigit, Bool.and_eq_true] at hdigit
    have := hle '9' (of_decide_eq_true hdigit.2)
    omega
  · split at h
    · rename_i hlower
      have := hle 'f' hlower.2
      omega
    · split at h
      · rename_i hupper
        have := hle 'F' hupper.2
        omega
      · cases h

theorem quiet_of_digits (h : ∀ c ∈ t, (digit? 16 c).isSome = true) : Quiet t := by
  intro c hc
  have hdigit := h c hc
  have hlt : c.toNat < 0x300 := Nat.lt_trans (toNat_lt_of_digit? hdigit) (by decide)
  refine ⟨fun hmem => ?_, isMark_eq_false_of_lt hlt⟩
  have hnone : [':', '$', '\n'].all fun c => (digit? 16 c).isNone := by decide
  rw [Option.isNone_iff_eq_none.mp (List.all_eq_true.mp hnone c hmem)] at hdigit
  cases hdigit

theorem quiet_hex (c : Char) : Quiet (hex c) :=
  quiet_of_digits (isSome_digit?_of_charOfHex? (charOfHex?_hex c))

theorem quiet_hexUpper (c : Char) : Quiet (hexUpper c) :=
  quiet_of_digits (isSome_digit?_of_charOfHex? (charOfHex?_hexUpper c))

theorem xml_of_special (h : c ∈ xmlSpecial) : Quiet (xml c) := by
  have hopening : Quiet "&#x".toList := by decide
  have hclosing : Quiet [';'] := by decide
  rw [xml, if_pos h]
  exact (hopening.append (quiet_hex c)).append hclosing

theorem written_xml (hp : Admits p) (h : p c) : Written p (xml c) := by
  by_cases hc : c ∈ xmlSpecial
  · exact (xml_of_special hc).written hp
  · rw [xml, if_neg hc]
    exact written_singleton.mpr h

/-- A character has a mark in an attribute if it is one. -/
theorem isMark_xml (c : Char) : (∀ d ∈ xml c, isMark d = false) ↔ isMark c = false := by
  by_cases hc : c ∈ xmlSpecial
  · have hspecial : Quiet xmlSpecial := by decide
    exact iff_of_true (fun d hd => (xml_of_special hc d hd).2) (hspecial c hc).2
  · rw [xml, if_neg hc]
    simp

/-! ## What replacing finds -/

theorem Loose.plain (h : Loose t) : Placeholder.Plain t :=
  h.imp fun _ _ hab => hab.2

/-- No marker begins in a loose text. -/
theorem Loose.markerless (h : Loose t) : Placeholder.Markerless t := by
  rintro ⟨before, behind, rfl⟩
  have hcolons : before ++ "::".toList ++ behind = before ++ ':' :: ':' :: behind :=
    List.append_assoc before [':', ':'] behind
  exact (List.isChain_iff_forall_rel_of_append_cons_cons.mp h hcolons).1 ⟨rfl, rfl⟩

theorem Verbatim.splitMarks (h : Verbatim t) : splitMarks t = t :=
  splitMarks_of_forall h.markless

theorem head?_splitMarks {b : Char} (h : b ∈ (splitMarks t).head?) : b = ' ' ∨ b ∈ t.head? := by
  cases t with
  | nil => cases h
  | cons c rest =>
      rw [splitMarks_cons] at h
      split at h
      · exact Or.inl (Option.some.inj h).symm
      · exact Or.inr h

/-- Padding marks makes no text less loose. -/
theorem Loose.splitMarks (h : Loose t) : Loose (splitMarks t) := by
  have hspace : ∀ c, Harmless c ' ' ∧ Harmless ' ' c := by simp [Harmless]
  induction t with
  | nil => exact List.isChain_nil
  | cons c rest ih =>
      obtain ⟨hnext, hrest⟩ := List.isChain_cons.mp h
      have hc : ∀ b ∈ (KeyboardLayout.Text.splitMarks rest).head?, Harmless c b := by
        intro b hb
        rcases head?_splitMarks hb with rfl | hb
        · exact (hspace c).1
        · exact hnext b hb
      have hcons := List.isChain_cons.mpr ⟨hc, ih hrest⟩
      rw [splitMarks_cons]
      split
      · refine List.isChain_cons.mpr ⟨fun b hb => ?_, hcons⟩
        exact (hspace b).2
      · exact hcons

end KeyboardLayout.Text
