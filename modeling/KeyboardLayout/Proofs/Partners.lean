import KeyboardLayout.Shift

/-!
# Facts about partners on all characters

What `shiftPartner` and `basePartner` answer is fixed by two case mappings of some hundred runs
each. No statement here walks through the characters: `CaseMap.avoids` compares the image of each
run with an interval of code points, and a character of the interval can then only be the image of
itself (`CaseMap.eq_of_avoids`). The drawings need this for the blank and for the line feed, the
exports for the markers of the built-in dead keys.
-/

namespace KeyboardLayout

namespace Unicode

/-- No letter of the run is mapped between the two code points. -/
def CaseRun.avoids (r : CaseRun) (lo hi : Nat) : Bool :=
  r.last + r.distance < lo || hi < r.first + r.distance

/-- No letter is mapped to a single character between the two code points. -/
def CaseMap.avoids (m : CaseMap) (lo hi : Nat) : Bool :=
  m.runs.all (·.avoids lo hi) && m.spellings.all (·.2.length != 1)

theorem toNat_ofNat_eq_or (n : Nat) : (Char.ofNat n).toNat = n ∨ (Char.ofNat n).toNat = 0 := by
  unfold Char.ofNat
  by_cases h : n.isValidChar
  · rw [dif_pos h]; exact Or.inl rfl
  · rw [dif_neg h]; exact Or.inr rfl

theorem CaseRun.not_between_image {r : CaseRun} {lo hi n : Nat} (h : r.avoids lo hi = true)
    (hlo : 0 < lo) (hn : r.holds n = true) (h1 : lo ≤ (r.image n).toNat) :
    ¬(r.image n).toNat ≤ hi := by
  simp only [avoids, holds, Bool.or_eq_true, Bool.and_eq_true, decide_eq_true_eq] at h hn
  unfold image at *
  rcases toNat_ofNat_eq_or (n + r.distance).toNat with heq | heq <;> rw [heq] at h1 ⊢ <;> omega

/-- A mapping that avoids an interval reaches its characters only from themselves. -/
theorem CaseMap.eq_of_avoids {m : CaseMap} {lo hi : Nat} (h : m.avoids lo hi = true)
    (hlo : 0 < lo) {c d : Char} (hd : Text.single? (m.apply c) = some d) (h1 : lo ≤ d.toNat)
    (h2 : d.toNat ≤ hi) : d = c := by
  simp only [avoids, Bool.and_eq_true, List.all_eq_true] at h
  obtain ⟨hruns, hspell⟩ := h
  unfold apply at hd
  split at hd
  · rename_i spelling hs
    obtain ⟨l₁, l₂, hmem, -⟩ := List.lookup_eq_some_iff.mp hs
    have hlen := hspell (c.toNat, spelling) (by simp [hmem])
    unfold Text.single? at hd
    split at hd
    · rename_i heq
      have := congrArg List.length heq
      simp_all
    · cases hd
  · split at hd
    · rename_i run hr
      have hrun : run.image c.toNat = d := Option.some.inj hd
      subst hrun
      exact absurd h2 (run.not_between_image (hruns run (List.mem_of_find?_eq_some hr)) hlo
        (List.find?_some (p := (CaseRun.holds · c.toNat)) hr) h1)
    · exact (Option.some.inj hd).symm

/-- A character is spelled with the characters of the table, or becomes one character. -/
theorem CaseMap.apply_cases (m : CaseMap) (c : Char) :
    (∃ spelling, (c.toNat, spelling) ∈ m.spellings ∧ m.apply c = spelling.map Char.ofNat)
      ∨ ∃ d, m.apply c = [d] := by
  unfold apply
  split
  · rename_i spelling hs
    obtain ⟨l₁, l₂, hmem, -⟩ := List.lookup_eq_some_iff.mp hs
    exact Or.inl ⟨spelling, by simp [hmem], rfl⟩
  · split
    · exact Or.inr ⟨_, rfl⟩
    · exact Or.inr ⟨c, rfl⟩

end Unicode

/-! ## Partners -/

theorem lowercase_avoids_blank : Unicode.lowercaseMap.avoids 0x20 0x20 = true := by
  decide

theorem lowercase_avoids_feed : Unicode.lowercaseMap.avoids 0x0A 0x0A = true := by
  decide

theorem uppercase_avoids_feed : Unicode.uppercaseMap.avoids 0x0A 0x0A = true := by
  decide

/-- A character that the lowercase mapping avoids is the base partner of no other one. -/
theorem eq_of_basePartner_eq {c d : Char}
    (h : Unicode.lowercaseMap.avoids d.toNat d.toNat = true) (hd : 0 < d.toNat)
    (hp : basePartner c = d) : c = d := by
  unfold basePartner at hp
  cases hs : singleLower? c with
  | none => rwa [hs] at hp
  | some lower =>
      rw [hs, Option.getD_some] at hp
      subst hp
      exact (Unicode.CaseMap.eq_of_avoids h hd hs (Nat.le_refl _) (Nat.le_refl _)).symm

/-- Only the blank has a blank base partner. -/
theorem basePartner_eq_blank_iff {c : Char} : basePartner c = blank ↔ c = blank := by
  refine ⟨fun h => eq_of_basePartner_eq lowercase_avoids_blank (by decide) h, ?_⟩
  rintro rfl
  decide

theorem basePartner_ne_feed {c : Char} (h : c ≠ '\n') : basePartner c ≠ '\n' :=
  fun hp => h (eq_of_basePartner_eq lowercase_avoids_feed (by decide) hp)

@[simp] theorem shiftPartner_blank : shiftPartner blank = blank := by
  decide

/-- A partner that is not blank is the uppercase of a letter whose case shows. -/
theorem upper_of_letterPartner {c d : Char} (h : letterPartner c = d) (hd : d ≠ blank) :
    singleUpper? c = some d ∧ singleLower? c ≠ some d := by
  unfold letterPartner at h
  split at h
  · rename_i upper lower hu hl
    split at h
    · exact absurd h.symm hd
    · rename_i hne
      subst h
      exact ⟨hu, fun heq => hne (Option.some.inj (hl.symm.trans heq)).symm⟩
  · rename_i upper hu hl
    subst h
    exact ⟨hu, by simp [hl]⟩
  · exact absurd h.symm hd

/-- No symbol has the line feed as its shift partner. -/
theorem shiftPartner_ne_feed {c : Char} : shiftPartner c ≠ '\n' := by
  unfold shiftPartner
  cases hp : shiftPairs.lookup c with
  | some partner =>
      have hpairs : ∀ pair ∈ shiftPairs, pair.2 ≠ '\n' := by decide
      obtain ⟨l₁, l₂, hmem, -⟩ := List.lookup_eq_some_iff.mp hp
      exact hpairs (c, partner) (by simp [hmem])
  | none =>
      intro h
      obtain ⟨hu, hl⟩ := upper_of_letterPartner h (by decide)
      obtain rfl := Unicode.CaseMap.eq_of_avoids uppercase_avoids_feed (by decide) hu
        (Nat.le_refl _) (Nat.le_refl _)
      exact hl (by decide)

end KeyboardLayout
