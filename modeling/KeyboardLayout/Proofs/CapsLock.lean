import KeyboardLayout.Proofs.KeylayoutLines
import KeyboardLayout.Proofs.KlcColumns

/-!
# Caps Lock on both systems

Windows has a flag for the keys that Caps Lock changes, macOS has a keymap of its own. The flag asks
whether a character differs from its uppercase; the keymap writes the uppercase for an attribute and
decides once more whether the key acts. As written texts can be told apart (`xmlText_inj`), a key
does on the Caps Lock keymap what it does on the base keymap exactly if Windows does not flag it
(`response_caps_eq_iff`), on any layout and registry (`capsFlag_iff_line_ne`).
-/

namespace KeyboardLayout

open Text

/-! ## Texts in attributes -/

namespace Keylayout

variable {layout : Layout} {key : Key} {c d : Char} {s t : Text}

/-- What a text starts with can be told from how it is written. -/
theorem xml_append_inj (h : xml c ++ s = xml d ++ t) : c = d ∧ s = t := by
  have hlength : (xmlSpecial.all fun c => (xml c).length = 8) = true := by decide
  simp only [List.all_eq_true, decide_eq_true_eq] at hlength
  have hmarked : '&' ∈ xmlSpecial := by decide
  obtain ⟨hc, heq⟩ | ⟨hc, c', rest, heq⟩ := xml_cases c <;>
    obtain ⟨hd, heq'⟩ | ⟨hd, d', rest', heq'⟩ := xml_cases d
  · rw [heq, heq'] at h
    exact List.cons.inj h
  · rw [heq, heq'] at h
    exact absurd ((List.cons.inj h).1 ▸ hmarked) hc
  · rw [heq, heq'] at h
    exact absurd ((List.cons.inj h).1 ▸ hmarked) hd
  · obtain ⟨hxml, hrest⟩ := List.append_inj h ((hlength c hc).trans (hlength d hd).symm)
    exact ⟨xml_inj hxml, hrest⟩

/-- Different texts are written differently. -/
theorem xmlText_inj (h : s.flatMap xml = t.flatMap xml) : s = t := by
  have hne : ∀ c, xml c ≠ [] := fun c hnil => by
    obtain ⟨-, heq⟩ | ⟨-, d, rest, heq⟩ := xml_cases c <;> rw [heq] at hnil <;> cases hnil
  induction s generalizing t with
  | nil =>
      cases t with
      | nil => rfl
      | cons d t => exact absurd (List.append_eq_nil_iff.mp h.symm).1 (hne d)
  | cons c s ih =>
      cases t with
      | nil => exact absurd (List.append_eq_nil_iff.mp h).1 (hne c)
      | cons d t =>
          obtain ⟨rfl, hrest⟩ := xml_append_inj h
          rw [ih hrest]

/-! ## The Caps Lock keymap -/

/-- Caps Lock leaves a character that is no dead key alone if that is its own uppercase. -/
theorem respond_caps_eq_iff (h : layout.deadKey? c = none) :
    respond layout .caps c = respond layout (.plain .base) c ↔ upperChar c = [c] := by
  constructor
  · intro heq
    have hvalue := congrArg Response.value heq
    rw [value_respond h, value_respond h] at hvalue
    exact xmlText_inj hvalue
  · intro hupper
    have hsingle : singleUpper? c = some c := by rw [singleUpper?, hupper, single?]
    unfold respond
    rw [h]
    simp only [hsingle, hupper, Option.any_some, List.flatMap_singleton]

/-- A key does the same with Caps Lock as without exactly if Windows does not flag it. -/
theorem response_caps_eq_iff (layout : Layout) (key : Key) :
    response layout .caps key = response layout (.plain .base) key ↔
      Klc.isCapsAffected layout key = false := by
  unfold response Klc.isCapsAffected
  simp only [Keymap.level]
  cases layout.symbol key .base with
  | none => exact iff_of_true rfl rfl
  | some c =>
      simp only [Bool.and_eq_false_iff, Bool.not_eq_false', bne_eq_false_iff_eq]
      cases hdk : layout.deadKey? c with
      | some dk =>
          refine iff_of_true ?_ (Or.inl ?_)
          · rw [respond, respond, hdk]
          · rw [Layout.isDeadKey, hdk]
            rfl
      | none =>
          rw [respond_caps_eq_iff hdk, isDeadKey_eq_false_iff.mpr hdk]
          simp

theorem keyLine_caps_eq_iff (layout : Layout) (key : Key) :
    keyLine layout .caps key = keyLine layout (.plain .base) key ↔
      Klc.isCapsAffected layout key = false := by
  rw [← response_caps_eq_iff]
  exact ⟨fun h => (keyElement_inj h).2, fun h => by rw [keyLine, keyLine, h]⟩

end Keylayout

/-! ## The Windows flag -/

namespace Klc

/-- The third column of a row. -/
def TableRow.flag (r : TableRow) : Text :=
  if r.caps then ['1'] else ['0']

/-- The columns behind the third. -/
def TableRow.others (r : TableRow) : List Text :=
  [r.base, r.shift, nothing, r.altGr, r.altGrShift, r.comment]

variable {r : TableRow}

theorem TableRow.text_eq (r : TableRow) :
    r.text = join ['\t'] (r.scan :: r.virtualKey :: r.flag :: r.others) := rfl

theorem TableRow.flag_cases (r : TableRow) :
    r.flag = ['1'] ∧ r.caps = true ∨ r.flag = ['0'] ∧ r.caps = false := by
  unfold TableRow.flag
  cases r.caps <;> simp

theorem TableRow.flag_eq_one_iff : r.flag = ['1'] ↔ r.caps = true := by
  obtain ⟨hflag, hcaps⟩ | ⟨hflag, hcaps⟩ := r.flag_cases <;> simp [hflag, hcaps]

/-- The flag is the third column that is read, unless the codes of the key hold tabs. -/
theorem TableRow.getElem?_columns (r : TableRow) (hscan : '\t' ∉ r.scan)
    (hvirtual : '\t' ∉ r.virtualKey) : (columns r.text)[2]? = some r.flag := by
  have htext : r.text = r.scan ++ '\t' :: (r.virtualKey ++ '\t' :: (r.flag ++ '\t' ::
      join ['\t'] r.others)) := by
    rw [text_eq]
    simp [join, others, List.intercalate_cons_cons]
  have hflag : '\t' ∉ r.flag := by
    obtain ⟨heq, -⟩ | ⟨heq, -⟩ := r.flag_cases <;> rw [heq] <;> decide
  rw [htext, columns_append_tab hscan, columns_append_tab hvirtual, columns_append_tab hflag]
  rfl

end Klc

/-! ## Both tables -/

open Sectioned

/-- **The Windows flag and the macOS keymap agree.** Whatever the registry and the layout, the row of
a key in the Windows table has a flag behind the scan code and the virtual key, as its third column:
it is `1` if the line of the key differs between the Caps Lock keymap and the base keymap, and `0`
otherwise. -/
theorem capsFlag_iff_line_ne (layout : Layout) (key : Key) :
    ∃ (row flag : Text) (others caps base : List Text) (capsLine baseLine : Text),
      (Klc.lines layout)[lineNumber key]? = some row
      ∧ row = join ['\t'] ((layout.registry.keyCodes key).klcScan ::
          (layout.registry.keyCodes key).klcVirtual :: flag :: others)
      ∧ ('\t' ∉ (layout.registry.keyCodes key).klcScan →
          '\t' ∉ (layout.registry.keyCodes key).klcVirtual → (Klc.columns row)[2]? = some flag)
      ∧ Keylayout.keymapLines layout 2 = .ok caps ∧ caps[lineNumber key]? = some capsLine
      ∧ Keylayout.keymapLines layout 0 = .ok base ∧ base[lineNumber key]? = some baseLine
      ∧ (flag = ['1'] ∨ flag = ['0'])
      ∧ (flag = ['1'] ↔ capsLine ≠ baseLine) := by
  refine ⟨_, _, _, _, _, _, _, getElem?_listing .., (Klc.row layout key).text_eq,
    (Klc.row layout key).getElem?_columns, rfl, getElem?_listing .., rfl, getElem?_listing ..,
    (Klc.row layout key).flag_cases.imp And.left And.left, ?_⟩
  rw [Klc.TableRow.flag_eq_one_iff, Ne, Keylayout.keyLine_caps_eq_iff, Bool.not_eq_false]
  rfl

/-- The uppercase of a sharp s is two letters, which no action can stand for. -/
theorem capsFlag_iff_line_ne_sharpS :
    ∃ layout row, Layout.ofText Registry.builtin (Layout.sketch [(5, 8, 'ß')] []) = .ok layout
      ∧ '\t' ∉ (layout.registry.keyCodes .ad01).klcScan
      ∧ '\t' ∉ (layout.registry.keyCodes .ad01).klcVirtual
      ∧ (Klc.lines layout)[lineNumber .ad01]? = some row
      ∧ (Klc.columns row)[2]? = some ['1'] := by
  obtain ⟨layout, h, hchecked⟩ := Layout.exists_of_any_toOption Registry.builtin
    (Layout.sketch [(5, 8, 'ß')] [])
    (fun layout => Keylayout.keyLine layout .caps .ad01 !=
      Keylayout.keyLine layout (.plain .base) .ad01)
    (by decide +kernel)
  rw [bne_iff_ne] at hchecked
  obtain ⟨drawn, hdrawn, rfl⟩ := Layout.drawn_of_ofText h
  have hcodes := Klc.tab_not_mem_codes .ad01 (Key.mem_all .ad01)
  rw [← hdrawn.registry_eq] at hcodes
  obtain ⟨row, flag, -, caps, base, capsLine, baseLine, hrow, -, hcolumn, hcaps, hcapsLine, hbase,
    hbaseLine, -, hflag⟩ := capsFlag_iff_line_ne drawn.complete .ad01
  obtain rfl := Except.ok.inj hcaps
  obtain rfl := Except.ok.inj hbase
  obtain rfl := Option.some.inj ((getElem?_listing ..).symm.trans hcapsLine)
  obtain rfl := Option.some.inj ((getElem?_listing ..).symm.trans hbaseLine)
  refine ⟨_, row, h, hcodes.1, hcodes.2, hrow, ?_⟩
  rw [hcolumn hcodes.1 hcodes.2, hflag.mpr hchecked]

end KeyboardLayout
