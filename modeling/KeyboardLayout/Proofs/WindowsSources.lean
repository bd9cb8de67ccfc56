import KeyboardLayout.Proofs.BuildRuns

/-!
# Windows sources as bytes

UTF-16 is read back exactly: a sequence of bytes is accepted if it is what some text is written as,
and that text is the one that is read (`decode?_eq_some_iff`). Two texts have the same lines if they
are the same with line feeds alone at the ends of lines (`WithFeeds`). DOS line ends change no more
than that (`toUnixLines_toDosLines`), so that the bytes of a Windows source stand for one text with
carriage returns in all the right places, and the source and its copy in UTF-8 hold the same lines
(`sources_agree`).
-/

namespace KeyboardLayout

namespace Text

theorem Utf8.decode?_encode (t : Text) : Utf8.decode? (Utf8.encode t) = some t := by
  have hvalid : (String.ofList t).toByteArray.IsValidUTF8 := (String.ofList t).isValidUTF8
  have hread : String.fromUTF8? (String.ofList t).toByteArray = some (String.ofList t) :=
    dif_pos hvalid
  show (String.fromUTF8? (String.ofList t).toByteArray).map String.toList = some t
  rw [hread, Option.map_some, String.toList_ofList]

namespace Utf16

variable {t u : Text} {c : Char} {unit : Nat} {us : List Nat} {data : List UInt8}

/-! ## Bytes and units -/

theorem unit_bytes (h : unit < 0x10000) :
    (UInt8.ofNat (unit % 0x100)).toNat + 0x100 * (UInt8.ofNat (unit / 0x100)).toNat = unit := by
  rw [UInt8.toNat_ofNat', UInt8.toNat_ofNat']
  omega

theorem bytes_unit (low high : UInt8) :
    bytes (low.toNat + 0x100 * high.toNat) = [low, high] := by
  have hlow := low.toNat_lt
  have hhigh := high.toNat_lt
  have hmod : (low.toNat + 0x100 * high.toNat) % 0x100 = low.toNat := by omega
  have hdiv : (low.toNat + 0x100 * high.toNat) / 0x100 = high.toNat := by omega
  rw [bytes, hmod, hdiv, UInt8.ofNat_toNat, UInt8.ofNat_toNat]

theorem length_flatMap_bytes (us : List Nat) : (us.flatMap bytes).length = 2 * us.length := by
  induction us with
  | nil => rfl
  | cons unit rest ih =>
      rw [List.flatMap_cons, List.length_append, ih, List.length_cons]
      show 2 + 2 * rest.length = 2 * (rest.length + 1)
      omega

/-- The units of some bytes are those that the bytes are written from. -/
theorem units?_eq_some_iff :
    units? data = some us ↔ data = us.flatMap bytes ∧ ∀ unit ∈ us, unit < 0x10000 := by
  constructor
  · intro h
    fun_induction units? data generalizing us with
    | case1 =>
        obtain rfl := Option.some.inj h
        exact ⟨rfl, fun _ hnil => absurd hnil List.not_mem_nil⟩
    | case2 => cases h
    | case3 low high rest ih =>
        obtain ⟨more, hmore, rfl⟩ := Option.map_eq_some_iff.mp h
        obtain ⟨rfl, hbound⟩ := ih hmore
        have hlow := low.toNat_lt
        have hhigh := high.toNat_lt
        refine ⟨?_, List.forall_mem_cons.mpr ⟨by omega, hbound⟩⟩
        rw [List.flatMap_cons, bytes_unit]
        rfl
  · rintro ⟨rfl, hbound⟩
    induction us with
    | nil => rfl
    | cons unit rest ih =>
        obtain ⟨hunit, hrest⟩ := List.forall_mem_cons.mp hbound
        rw [List.flatMap_cons, bytes, List.cons_append, List.cons_append, List.nil_append, units?,
          ih hrest, Option.map_some, unit_bytes hunit]

/-! ## Units and characters -/

theorem units_lt (c : Char) : ∀ unit ∈ units c, unit < 0x10000 := by
  have hvalid : c.toNat < 0xD800 ∨ 0xDFFF < c.toNat ∧ c.toNat < 0x110000 := c.valid
  unfold units
  split
  · simpa
  · simp only [List.forall_mem_cons, List.not_mem_nil, false_imp_iff, implies_true, and_true]
    omega

theorem toNat_ofNat (h : unit.isValidChar) : (Char.ofNat unit).toNat = unit := by
  unfold Char.ofNat
  rw [dif_pos h]
  rfl

theorem units_of_not_surrogate (h : unit < 0x10000) (hlow : isLow unit = false)
    (hhigh : isHigh unit = false) : units (Char.ofNat unit) = [unit] := by
  simp only [isLow, isHigh, Bool.and_eq_false_iff, decide_eq_false_iff_not] at hlow hhigh
  have hvalid : unit.isValidChar := by
    unfold Nat.isValidChar
    omega
  rw [units, toNat_ofNat hvalid, if_pos h]

theorem units_of_surrogates {high low : Nat} (hhigh : isHigh high = true)
    (hlow : isLow low = true) :
    units (Char.ofNat (0x10000 + 0x400 * (high - 0xD800) + (low - 0xDC00))) = [high, low] := by
  simp only [isLow, isHigh, Bool.and_eq_true, decide_eq_true_eq] at hhigh hlow
  generalize hn : 0x10000 + 0x400 * (high - 0xD800) + (low - 0xDC00) = n
  have hvalid : n.isValidChar := by
    unfold Nat.isValidChar
    omega
  have hfirst : 0xD800 + (n - 0x10000) / 0x400 = high := by omega
  have hsecond : 0xDC00 + (n - 0x10000) % 0x400 = low := by omega
  rw [units, toNat_ofNat hvalid, if_neg (by omega), hfirst, hsecond]

/-- The units of a character are read as the character, whatever follows. -/
theorem chars?_units (c : Char) (us : List Nat) :
    chars? (units c ++ us) = (chars? us).map (c :: ·) := by
  have hvalid : c.toNat < 0xD800 ∨ 0xDFFF < c.toNat ∧ c.toNat < 0x110000 := c.valid
  by_cases hbasic : c.toNat < 0x10000
  · have hlow : isLow c.toNat = false := by
      simp only [isLow, Bool.and_eq_false_iff, decide_eq_false_iff_not]
      omega
    have hhigh : isHigh c.toNat = false := by
      simp only [isHigh, Bool.and_eq_false_iff, decide_eq_false_iff_not]
      omega
    rw [units, if_pos hbasic, List.singleton_append, chars?.eq_def]
    simp only [hlow, hhigh, Bool.false_eq_true, if_false, Char.ofNat_toNat]
  · generalize hfirst : 0xD800 + (c.toNat - 0x10000) / 0x400 = first
    generalize hsecond : 0xDC00 + (c.toNat - 0x10000) % 0x400 = second
    have hlow : isLow first = false ∧ isLow second = true := by
      simp only [isLow, Bool.and_eq_false_iff, Bool.and_eq_true, decide_eq_false_iff_not,
        decide_eq_true_eq]
      omega
    have hhigh : isHigh first = true := by
      simp only [isHigh, Bool.and_eq_true, decide_eq_true_eq]
      omega
    have hcode : 0x10000 + 0x400 * (first - 0xD800) + (second - 0xDC00) = c.toNat := by omega
    rw [units, if_neg hbasic, hfirst, hsecond, List.cons_append, List.singleton_append, chars?]
    simp only [hlow, hhigh, hcode, Bool.false_eq_true, if_false, if_true, Char.ofNat_toNat]

/-- The characters of some units are those that the units are written from. -/
theorem chars?_eq_some_iff (hbound : ∀ unit ∈ us, unit < 0x10000) :
    chars? us = some t ↔ us = t.flatMap units := by
  constructor
  · intro h
    fun_induction chars? us generalizing t with
    | case1 =>
        obtain rfl := Option.some.inj h
        rfl
    | case2 => cases h
    | case3 high hlow hhigh low rest hsecond ih =>
        obtain ⟨more, hmore, rfl⟩ := Option.map_eq_some_iff.mp h
        simp only [List.forall_mem_cons] at hbound
        rw [List.flatMap_cons, units_of_surrogates hhigh hsecond, ← ih hbound.2.2 hmore]
        rfl
    | case4 => cases h
    | case5 => cases h
    | case6 unit rest hlow hhigh ih =>
        obtain ⟨more, hmore, rfl⟩ := Option.map_eq_some_iff.mp h
        simp only [List.forall_mem_cons] at hbound
        rw [List.flatMap_cons,
          units_of_not_surrogate hbound.1 (Bool.eq_false_iff.mpr hlow) (Bool.eq_false_iff.mpr hhigh),
          ← ih hbound.2 hmore]
        rfl
  · rintro rfl
    induction t with
    | nil => rfl
    | cons c rest ih =>
        rw [List.flatMap_cons] at hbound ⊢
        rw [chars?_units, ih fun unit hunit => hbound unit (List.mem_append_right _ hunit)]
        rfl

/-- The text of some bytes is the one that the bytes are written from. -/
theorem decode?_eq_some_iff : decode? data = some t ↔ data = encode t := by
  have hunits : ∀ unit ∈ t.flatMap units, unit < 0x10000 := by
    intro unit hunit
    obtain ⟨c, -, hc⟩ := List.mem_flatMap.mp hunit
    exact units_lt c unit hc
  rw [decode?, Option.bind_eq_some_iff]
  constructor
  · rintro ⟨us, hus, ht⟩
    obtain ⟨rfl, hbound⟩ := units?_eq_some_iff.mp hus
    rw [(chars?_eq_some_iff hbound).mp ht, encode]
  · rintro rfl
    exact ⟨_, units?_eq_some_iff.mpr ⟨rfl, hunits⟩, (chars?_eq_some_iff hunits).mpr rfl⟩

/-! ## Line ends -/

/-- Every line feed comes right behind a carriage return. -/
def DosEnded (t : Text) : Prop :=
  ∀ before after, t = before ++ '\n' :: after → before.getLast? = some '\r'

theorem DosEnded.append (ht : DosEnded t) (hu : DosEnded u) : DosEnded (t ++ u) := by
  intro before after h
  rcases List.append_eq_append_iff.mp h with ⟨more, rfl, hfeed⟩ | ⟨more, rfl, hfeed⟩
  · rw [List.getLast?_append, hu more after hfeed]
    rfl
  · cases more with
    | nil =>
        have hlast := hu [] after hfeed.symm
        cases hlast
    | cons c more =>
        obtain ⟨rfl, rfl⟩ := List.cons.inj hfeed
        exact ht before more rfl

theorem dosEnded_toDosLines (t : Text) : DosEnded (toDosLines t) := by
  induction t with
  | nil => exact fun before after h => by simp [toDosLines] at h
  | cons c rest ih =>
      suffices DosEnded (if c = '\n' then ['\r', '\n'] else [c]) from this.append ih
      intro before after h
      split at h
      · cases before with
        | nil => cases h
        | cons d before =>
            obtain ⟨rfl, h⟩ := List.cons.inj h
            cases before with
            | nil => rfl
            | cons e before => simp at h
      · rename_i hc
        cases before with
        | nil => exact absurd (List.cons.inj h).1 hc
        | cons d before => simp at h

/-- The second text is the first one with each carriage return that a line feed follows left out. -/
inductive WithFeeds : Text → Text → Prop
  | nil : WithFeeds [] []
  | lineEnd {t u : Text} : WithFeeds t u → WithFeeds ('\r' :: '\n' :: t) ('\n' :: u)
  | other {c : Char} {t u : Text} : (c = '\r' → t.head? ≠ some '\n') → WithFeeds t u →
      WithFeeds (c :: t) (c :: u)

theorem toUnixLines_cons (h : c = '\r' → t.head? ≠ some '\n') :
    toUnixLines (c :: t) = c :: toUnixLines t := by
  rw [toUnixLines]
  rintro rest rfl rfl
  exact h rfl rfl

/-- Taking the carriage returns away gives the text with line feeds alone. -/
theorem withFeeds_iff : WithFeeds t u ↔ toUnixLines t = u := by
  constructor
  · intro h
    induction h with
    | nil => rfl
    | lineEnd _ ih => rw [toUnixLines, ih]
    | other hc _ ih => rw [toUnixLines_cons hc, ih]
  · rintro rfl
    fun_induction toUnixLines t with
    | case1 rest ih => exact .lineEnd ih
    | case2 c rest hc ih =>
        refine .other ?_ ih
        rintro rfl hfeed
        obtain ⟨more, rfl⟩ := List.head?_eq_some_iff.mp hfeed
        exact hc more rfl rfl
    | case3 => exact .nil

theorem head?_toDosLines_ne (t : Text) : (toDosLines t).head? ≠ some '\n' := by
  cases t with
  | nil => simp [toDosLines]
  | cons c rest =>
      rw [toDosLines, List.flatMap_cons]
      split
      · simp
      · simpa

/-- The carriage returns that were written are taken away again, and no others. -/
theorem toUnixLines_toDosLines (t : Text) : toUnixLines (toDosLines t) = t := by
  induction t with
  | nil => rfl
  | cons c rest ih =>
      by_cases hc : c = '\n'
      · subst hc
        show toUnixLines ('\r' :: '\n' :: toDosLines rest) = _
        rw [toUnixLines, ih]
      · have hcons : toDosLines (c :: rest) = c :: toDosLines rest := by
          rw [toDosLines, List.flatMap_cons, if_neg hc]
          rfl
        rw [hcons, toUnixLines_cons fun _ => head?_toDosLines_ne rest, ih]

/-- The bytes of a Windows source stand for one text, which has the same lines with DOS line ends
and is written as the same bytes. -/
theorem decode?_encodeDos (t : Text) :
    ∃ u, decode? (encodeDos t) = some u ∧ DosEnded u ∧ (∃ lf, WithFeeds t lf ∧ WithFeeds u lf)
      ∧ encodeDos u = encodeDos t := by
  have hlines := toUnixLines_toDosLines (toUnixLines t)
  refine ⟨_, decode?_eq_some_iff.mpr rfl, dosEnded_toDosLines _, ?_, ?_⟩
  · exact ⟨_, withFeeds_iff.mpr rfl, withFeeds_iff.mpr hlines⟩
  · rw [encodeDos, hlines, encodeDos]

theorem even_length_encodeDos (t : Text) : 2 ∣ (encodeDos t).length := by
  rw [encodeDos, encode, length_flatMap_bytes]
  exact Nat.dvd_mul_right 2 _

end Utf16

end Text

/-! ## The files of the Windows driver -/

namespace Command.Output

open Text

variable {config : Config} {layout : Layout} {content : Text}

/-- What is rendered is written as a Windows source, and beside it as UTF-8 if a copy is asked
for. -/
theorem ofDriver_klc (directory : Path)
    (h : Driver.klc.render layout config.options = .ok content) :
    ofDriver config directory layout .klc =
      .ok (⟨pathOf directory layout ".klc", Utf16.encodeDos content⟩ ::
        (if config.klcCopy then [⟨pathOf directory layout "_utf8.klc", Utf8.encode content⟩]
        else [])) := by
  unfold ofDriver
  rw [h]
  rfl

/-- **A Windows source stands for its text.** The bytes of any text are pairs and are read back as a
text with DOS line ends throughout, which is the same with line feeds alone and is written as the
same bytes. So a Windows source and its copy in UTF-8 hold the same lines, whatever the layout and
what it is called. -/
theorem sources_agree :
    (∀ t : Text, 2 ∣ (Utf16.encodeDos t).length
      ∧ ∃ u, Utf16.decode? (Utf16.encodeDos t) = some u
        ∧ Utf16.DosEnded u
        ∧ (∃ lf, Utf16.WithFeeds t lf ∧ Utf16.WithFeeds u lf)
        ∧ Utf16.encodeDos u = Utf16.encodeDos t)
    ∧ ∀ (config : Config) (directory : Path) (layout : Layout) (content : Text),
        Driver.klc.render layout config.options = .ok content →
        ∃ source copy : List UInt8,
          ofDriver config directory layout .klc =
            .ok (⟨pathOf directory layout ".klc", source⟩ ::
              (if config.klcCopy then [⟨pathOf directory layout "_utf8.klc", copy⟩] else []))
          ∧ Utf8.decode? copy = some content
          ∧ ∃ u, Utf16.decode? source = some u
            ∧ ∃ lf, Utf16.WithFeeds content lf ∧ Utf16.WithFeeds u lf := by
  refine ⟨fun t => ⟨Utf16.even_length_encodeDos t, Utf16.decode?_encodeDos t⟩, ?_⟩
  intro config directory layout content hcontent
  obtain ⟨u, hread, -, hlines, -⟩ := Utf16.decode?_encodeDos content
  exact ⟨_, _, ofDriver_klc directory hcontent, Utf8.decode?_encode content, u, hread, hlines⟩

/-- A text with all kinds of line ends and a character of two units, and a layout that it
describes. -/
theorem sources_agree_lineEnds :
    (∃ u, Utf16.decode? (Utf16.encodeDos "a\r\r\n𐐷\n".toList) = some u
      ∧ Utf16.WithFeeds "a\r\r\n𐐷\n".toList "a\r\n𐐷\n".toList
      ∧ Utf16.WithFeeds u "a\r\n𐐷\n".toList)
    ∧ ∃ layout content source copy,
      layout.metadata.description = "a\r\r\n𐐷\n".toList
      ∧ Driver.klc.render layout ({} : Config).options = .ok content
      ∧ ofDriver {} [] layout .klc =
          .ok [⟨pathOf [] layout ".klc", source⟩, ⟨pathOf [] layout "_utf8.klc", copy⟩]
      ∧ Utf8.decode? copy = some content
      ∧ ∃ u, Utf16.decode? source = some u
        ∧ ∃ lf, Utf16.WithFeeds content lf ∧ Utf16.WithFeeds u lf := by
  constructor
  · obtain ⟨-, u, hread, -, ⟨lf, htext, hsource⟩, -⟩ := sources_agree.1 "a\r\r\n𐐷\n".toList
    obtain rfl : "a\r\n𐐷\n".toList = lf := Utf16.withFeeds_iff.mp htext
    exact ⟨u, hread, htext, hsource⟩
  · let layout := Layout.empty { description := "a\r\r\n𐐷\n".toList } Registry.Builtin.iso
      Registry.builtin
    have hconfig : ({} : Config).validateGeometry Registry.builtin = .ok () := rfl
    have hregistry : layout.registry = Registry.builtin := rfl
    obtain ⟨content, hcontent⟩ := Driver.render_of_validateGeometry hconfig hregistry .klc
    obtain ⟨source, copy, hfiles, hcopy, hsource⟩ := sources_agree.2 _ [] _ content hcontent
    exact ⟨layout, content, source, copy, rfl, hcontent, hfiles, hcopy, hsource⟩

end Command.Output

end KeyboardLayout
