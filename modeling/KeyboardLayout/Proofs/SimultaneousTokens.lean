import KeyboardLayout.Proofs.Tokens

/-!
# Tokens all at once

A driver replaces its tokens one after the other, so that each replacement also goes through the
values that earlier ones have inserted. `substituteTokens` replaces all of them in one pass, which
never looks at a value. Both come to the same if no value that shows holds the opening of a token
that is replaced after it (`insertTokens_eq_substituteTokens`), and if no opening arises across the
end of a value (`Settled`): what stands behind a token must have no part in an opening.
-/

namespace KeyboardLayout.Text.Placeholder

variable {name value : Text} {names shown : List Text} {tokens done : List (Text × Text)}
  {parts : List Part}
  {default? : Option Text} {lines : List Text} {s t rest : Text}

/-! ## One pass -/

/-- The first of the tokens that is read at the start of `t`: its value and what follows it. -/
def firstToken? (tokens : List (Text × Text)) (t : Text) : Option (Text × Text) :=
  tokens.findSome? fun token =>
    (tokenAt? token.1 t).map fun found => (chosen found.1 token.2, found.2)

theorem length_firstToken? (h : firstToken? tokens t = some (value, rest)) :
    rest.length < t.length := by
  obtain ⟨token, -, hfound⟩ := List.exists_of_findSome?_eq_some h
  obtain ⟨found, hread, heq⟩ := Option.map_eq_some_iff.mp hfound
  cases heq
  exact length_tokenAt? hread

/-- `template` with every token replaced by its value, all of them in one pass. -/
def substituteTokens (tokens : List (Text × Text)) : (template : Text) → Text
  | [] => []
  | c :: t =>
    match _h : firstToken? tokens (c :: t) with
    | some (value, rest) => value ++ substituteTokens tokens rest
    | none => c :: substituteTokens tokens t
termination_by template => template.length
decreasing_by
  · exact length_firstToken? _h
  · simp

theorem substituteTokens_cons_of_none {c : Char} (h : firstToken? tokens (c :: t) = none) :
    substituteTokens tokens (c :: t) = c :: substituteTokens tokens t := by
  rw [substituteTokens]
  split
  · rename_i hsome
    rw [h] at hsome
    cases hsome
  · rfl

theorem substituteTokens_of_some (h : firstToken? tokens t = some (value, rest)) :
    substituteTokens tokens t = value ++ substituteTokens tokens rest := by
  cases t with
  | nil => exact absurd (length_firstToken? h) (Nat.not_lt_zero _)
  | cons c t =>
      rw [substituteTokens]
      split
      · rename_i hsome
        rw [h] at hsome
        cases hsome
        rfl
      · rename_i hnone
        rw [h] at hnone
        cases hnone

theorem firstToken?_eq_none (h : ∀ name, tokenAt? name t = none) : firstToken? tokens t = none := by
  refine List.findSome?_eq_none_iff.mpr fun token _ => ?_
  rw [h, Option.map_none]

theorem substituteTokens_append (h : '$' ∉ s) (tokens : List (Text × Text)) (t : Text) :
    substituteTokens tokens (s ++ t) = s ++ substituteTokens tokens t := by
  induction s with
  | nil => rfl
  | cons c s ih =>
      rw [List.mem_cons, not_or] at h
      have hnone := fun name => tokenAt?_cons_of_ne (Ne.symm h.1) name (s ++ t)
      rw [List.cons_append, substituteTokens_cons_of_none (firstToken?_eq_none hnone), ih h.2]
      rfl

/-! ## Parts with values -/

/-- The part with the value of its token, if it has one. -/
def Part.filled (tokens : List (Text × Text)) : Part → Text
  | char c => [c]
  | token name default? =>
    (tokens.lookup name).elim (token name default?).text (chosen default? ·)

theorem Part.filled_token (tokens : List (Text × Text)) (name : Text) (default? : Option Text) :
    (token name default?).filled tokens =
      (tokens.lookup name).elim (token name default?).text (chosen default? ·) :=
  rfl

/-- The parts with the values of their tokens. -/
def filled (tokens : List (Text × Text)) (parts : List Part) : Text :=
  parts.flatMap (Part.filled tokens)

@[simp] theorem filled_append (tokens : List (Text × Text)) (ps qs : List Part) :
    filled tokens (ps ++ qs) = filled tokens ps ++ filled tokens qs :=
  List.flatMap_append

theorem filled_cons (tokens : List (Text × Text)) (part : Part) (rest : List Part) :
    filled tokens (part :: rest) = part.filled tokens ++ filled tokens rest :=
  List.flatMap_cons

theorem filled_nil (parts : List Part) : filled [] parts = textOf parts := by
  refine List.flatMap_congr fun part _ => ?_
  cases part <;> rfl

/-- The names of the tokens can be told from what follows them. -/
def Named (tokens : List (Text × Text)) : Prop :=
  ∀ token ∈ tokens, ∀ c ∈ token.1, c ∉ ['$', '=', '\x7d']

theorem firstToken?_text (htokens : Named tokens) (h : (Part.token name default?).Proper)
    (t : Text) :
    firstToken? tokens ((Part.token name default?).text ++ t) =
      (tokens.lookup name).map fun value => (chosen default? value, t) := by
  induction tokens with
  | nil => rfl
  | cons token rest ih =>
      have hrest := ih fun token htoken => htokens token (List.mem_cons_of_mem _ htoken)
      have hread := tokenAt?_text (htokens token (List.mem_cons_self ..)) h t
      unfold firstToken? at hrest ⊢
      rw [List.findSome?_cons, hread, List.lookup_cons]
      by_cases hname : name = token.1
      · rw [if_pos hname, beq_iff_eq.mpr hname]
        rfl
      · rw [if_neg hname, beq_false_of_ne hname]
        exact hrest

/-- One pass gives every part its value. -/
theorem substituteTokens_textOf (htokens : Named tokens) (h : Tokenized parts) :
    substituteTokens tokens (textOf parts) = filled tokens parts := by
  obtain ⟨hproper, hapart⟩ := h
  induction parts with
  | nil => simp [textOf, filled, substituteTokens]
  | cons part rest ih =>
      have hrest := ih (fun p hp => hproper p (List.mem_cons_of_mem _ hp)) hapart.of_cons
      have htext : textOf (part :: rest) = part.text ++ textOf rest := List.flatMap_cons
      rw [htext, filled_cons, ← hrest]
      cases part with
      | char c =>
          have hnone : ∀ name, tokenAt? name (c :: textOf rest) = none := by
            intro name
            by_cases hc : c = '$'
            · rw [hc]
              exact tokenAt?_dollar (head?_textOf_ne hapart hc) name
            · exact tokenAt?_cons_of_ne hc name _
          exact substituteTokens_cons_of_none (firstToken?_eq_none hnone)
      | token name default? =>
          have hpart := hproper _ (List.mem_cons_self ..)
          have hread := firstToken?_text htokens hpart (textOf rest)
          rw [Part.filled_token]
          cases hvalue : tokens.lookup name with
          | some value =>
              rw [hvalue] at hread
              exact substituteTokens_of_some hread
          | none =>
              obtain ⟨inner, hinner, hdollar⟩ := Part.exists_text_eq hpart
              rw [hvalue, hinner, List.cons_append] at hread
              rw [Option.elim_none, hinner, List.cons_append]
              rw [substituteTokens_cons_of_none hread, substituteTokens_append hdollar]
              rfl

/-! ## Openings -/

/-- What a token of that name starts with, up to the end of its name. -/
def opening (name : Text) (stop : Char) : Text :=
  "$\x7b".toList ++ name ++ [stop]

/-- The text holds the opening of a token of that name. -/
def Opens (name t : Text) : Prop :=
  ∃ stop ∈ ['=', '\x7d'], opening name stop <:+: t

-- The instance is named: with all of `Char` in scope, another one goes through every character.
instance (name t : Text) : Decidable (Opens name t) :=
  List.decidableBEx (opening name · <:+: t) ['=', '\x7d']

/-- The character has a part in an opening, behind its dollar sign. -/
def Continues (name : Text) (c : Char) : Prop :=
  c ∈ '\x7b' :: (name ++ ['=', '\x7d'])

instance (name : Text) (c : Char) : Decidable (Continues name c) :=
  inferInstanceAs (Decidable (c ∈ _))

theorem not_opens_of_not_mem (h : '$' ∉ t) (name : Text) : ¬Opens name t := by
  rintro ⟨stop, -, hopening⟩
  exact h (hopening.subset (List.mem_cons_self ..))

theorem exists_opening_of_tokenAt? {found : Option Text × Text}
    (h : tokenAt? name t = some found) : ∃ stop ∈ ['=', '\x7d'], opening name stop <+: t := by
  have hopening : ∀ stop rest, after? ("$\x7b".toList ++ name) t = some (stop :: rest) →
      opening name stop <+: t := by
    intro stop rest hafter
    rw [after?_eq_some_iff.mp hafter]
    exact ⟨rest, by simp [opening]⟩
  unfold tokenAt? at h
  split at h
  · rename_i rest hafter
    exact ⟨'\x7d', by simp, hopening _ rest hafter⟩
  · rename_i rest hafter
    exact ⟨'=', by simp, hopening _ rest hafter⟩
  · cases h

/-- No token is read in a text without its opening, if none arises across the end of the text. -/
theorem tokenAt?_append_eq_none {c : Char} (h : ¬Opens name (c :: s))
    (hrest : ∀ d ∈ rest.head?, ¬Continues name d) : tokenAt? name (c :: s ++ rest) = none := by
  cases hread : tokenAt? name (c :: s ++ rest) with
  | none => rfl
  | some found =>
      obtain ⟨stop, hstop, hopening⟩ := exists_opening_of_tokenAt? hread
      rcases List.prefix_or_prefix_of_prefix hopening (List.prefix_append (c :: s) rest) with
        hwithin | ⟨more, hmore⟩
      · exact absurd ⟨stop, hstop, hwithin.isInfix⟩ h
      · rw [← hmore, List.prefix_append_right_inj] at hopening
        cases more with
        | nil =>
            rw [List.append_nil] at hmore
            exact absurd ⟨stop, hstop, hmore ▸ List.infix_refl _⟩ h
        | cons d more =>
            have hd : d ∈ rest.head? := by
              obtain ⟨behind, rfl⟩ := hopening
              rfl
            -- the dollar sign is in the text, so that the character comes later in the opening
            have htail : s ++ d :: more = '\x7b' :: (name ++ [stop]) := (List.cons.inj hmore).2
            have hmem : d ∈ '\x7b' :: (name ++ [stop]) :=
              htail ▸ List.mem_append_right _ (List.mem_cons_self ..)
            refine absurd ?_ (hrest d hd)
            unfold Continues
            rcases List.mem_cons.mp hmem with rfl | hmem
            · exact List.mem_cons_self ..
            · rcases List.mem_append.mp hmem with hmem | hmem
              · exact List.mem_cons_of_mem _ (List.mem_append_left _ hmem)
              · rw [List.mem_singleton.mp hmem]
                exact List.mem_cons_of_mem _ (List.mem_append_right _ hstop)

/-- A text without the opening of a token stays as it is. -/
theorem substituteToken_append_of_not_opens (h : ¬Opens name s)
    (hrest : ∀ d ∈ rest.head?, ¬Continues name d) (value : Text) :
    substituteToken name value (s ++ rest) = s ++ substituteToken name value rest := by
  induction s with
  | nil => rfl
  | cons c s ih =>
      have htail : ¬Opens name s := fun ⟨stop, hstop, hinfix⟩ =>
        h ⟨stop, hstop, List.infix_cons hinfix⟩
      have hnone := tokenAt?_append_eq_none h hrest
      rw [List.cons_append] at hnone ⊢
      rw [substituteToken_cons_of_none hnone, ih htail]
      rfl

theorem not_opens_chosen (h : (Part.token name default?).Proper) {later : Text}
    (hvalue : ¬Opens later value) : ¬Opens later (chosen default? value) := by
  unfold chosen
  split
  · cases default? with
    | none => exact hvalue
    | some text => exact not_opens_of_not_mem (fun hmem => h.2 text rfl _ hmem (by simp)) later
  · exact hvalue

/-! ## One token after the others -/

/-- What stands behind a token has no part in an opening. -/
def Part.Seals (name : Text) : Part → Part → Prop
  | token _ _, char c => ¬Continues name c
  | _, _ => True

/-- The part is a token of one of the names, if it is one. -/
def Part.Among (shown : List Text) : Part → Prop
  | token name _ => name ∈ shown
  | char _ => True

/-- Where a token may not follow, a character does. -/
theorem head?_filled {first : Part} (h : (first :: parts).IsChain Part.Apart)
    (hfirst : ∀ name default?, ¬first.Apart (.token name default?)) {d : Char}
    (hd : d ∈ (filled done parts).head?) : Part.char d ∈ parts.head? := by
  cases parts with
  | nil => cases hd
  | cons next rest =>
      have hnext := (List.isChain_cons_cons.mp h).1
      cases next with
      | char c =>
          cases hd
          rfl
      | token name default? => exact absurd hnext (hfirst name default?)

/-- A token is replaced in a text whose earlier tokens have their values, and in no value. -/
theorem substituteToken_filled (hname : ∀ c ∈ name, c ∉ ['$', '=', '\x7d'])
    (hdone : ∀ token ∈ done, token.1 ∈ shown → ¬Opens name token.2)
    (h : Tokenized parts) (hshown : ∀ part ∈ parts, part.Among shown)
    (hsealed : parts.IsChain (Part.Seals name)) (value : Text) :
    substituteToken name value (filled done parts) = filled (done ++ [(name, value)]) parts := by
  have hlookup : ∀ other, (done ++ [(name, value)]).lookup other =
      (done.lookup other).or (if other = name then some value else none) := by
    intro other
    rw [List.lookup_append, List.lookup_cons]
    by_cases hother : other = name
    · rw [if_pos hother, beq_iff_eq.mpr hother]
    · rw [if_neg hother, beq_false_of_ne hother]
      rfl
  obtain ⟨hproper, hapart⟩ := h
  induction parts with
  | nil => simp [filled, substituteToken]
  | cons part rest ih =>
      have hrest := ih (fun p hp => hshown p (List.mem_cons_of_mem _ hp)) hsealed.of_cons
        (fun p hp => hproper p (List.mem_cons_of_mem _ hp)) hapart.of_cons
      rw [filled_cons, filled_cons, ← hrest]
      cases part with
      | char c =>
          have hnone : tokenAt? name (c :: filled done rest) = none := by
            by_cases hc : c = '$'
            · rw [hc] at hapart ⊢
              refine tokenAt?_dollar (fun hhead => ?_) name
              have hnext := head?_filled hapart (fun _ _ hne => hne rfl) (Option.mem_def.mpr hhead)
              exact (List.isChain_cons.mp hapart).1 _ hnext ⟨rfl, rfl⟩
            · exact tokenAt?_cons_of_ne hc name _
          exact substituteToken_cons_of_none hnone value
      | token other default? =>
          have hpart := hproper _ (List.mem_cons_self ..)
          rw [Part.filled_token, Part.filled_token, hlookup]
          cases hvalue : done.lookup other with
          | some earlier =>
              -- the value is already there: nothing in it is read as a token
              obtain ⟨before, after, hsplit, -⟩ := List.lookup_eq_some_iff.mp hvalue
              have hmem : (other, earlier) ∈ done :=
                hsplit ▸ List.mem_append_right _ (List.mem_cons_self ..)
              have hopens := not_opens_chosen hpart
                (hdone _ hmem (hshown _ (List.mem_cons_self ..)))
              refine substituteToken_append_of_not_opens hopens (fun d hd => ?_) value
              have hnext := head?_filled hapart (fun _ _ hne => hne) hd
              exact (List.isChain_cons.mp hsealed).1 _ hnext
          | none =>
              have hread := tokenAt?_text hname hpart (filled done rest)
              rw [Option.elim_none, Option.none_or]
              by_cases hother : other = name
              · rw [if_pos hother] at hread ⊢
                exact substituteToken_of_some hread value
              · obtain ⟨inner, hinner, hdollar⟩ := Part.exists_text_eq hpart
                rw [if_neg hother, hinner, List.cons_append] at hread
                rw [if_neg hother, Option.elim_none, hinner, List.cons_append]
                rw [substituteToken_cons_of_none hread, substituteToken_append hdollar]
                rfl

/-- No value of these tokens holds the opening of a token that comes after its own. -/
def Inserted (shown : List Text) (tokens : List (Text × Text)) : Prop :=
  tokens.Pairwise fun token later => token.1 ∈ shown → ¬Opens later.1 token.2

instance (shown : List Text) (tokens : List (Text × Text)) : Decidable (Inserted shown tokens) :=
  inferInstanceAs (Decidable (tokens.Pairwise _))

/-- Inserting more tokens into a text whose earlier ones have their values. -/
theorem insertTokens_filled (htokens : Named (done ++ tokens))
    (hinserted : Inserted shown (done ++ tokens)) (h : Tokenized parts)
    (hshown : ∀ part ∈ parts, part.Among shown)
    (hsealed : ∀ token ∈ tokens, parts.IsChain (Part.Seals token.1)) :
    Driver.insertTokens tokens (filled done parts) = filled (done ++ tokens) parts := by
  induction tokens generalizing done with
  | nil => rw [List.append_nil]; rfl
  | cons token rest ih =>
      have hmem : token ∈ done ++ token :: rest :=
        List.mem_append_right _ (List.mem_cons_self ..)
      have hdone : ∀ earlier ∈ done, earlier.1 ∈ shown → ¬Opens token.1 earlier.2 :=
        fun earlier hearlier =>
          (List.pairwise_append.mp hinserted).2.2 earlier hearlier token (List.mem_cons_self ..)
      have hstep := substituteToken_filled (htokens token hmem) hdone h hshown
        (hsealed token (List.mem_cons_self ..)) token.2
      have happend : done ++ token :: rest = done ++ [token] ++ rest := by simp
      rw [happend] at htokens hinserted ⊢
      rw [← ih htokens hinserted fun later hlater =>
        hsealed later (List.mem_cons_of_mem _ hlater), ← hstep]
      rfl

/-! ## Texts of lines -/

instance : DecidableRel (Part.Seals name)
  | .token _ _, .char _ => inferInstanceAs (Decidable (¬_))
  | .token _ _, .token _ _ => isTrue trivial
  | .char _, _ => isTrue trivial

instance : DecidablePred (Part.Among shown)
  | .token _ _ => inferInstanceAs (Decidable (_ ∈ shown))
  | .char _ => isTrue trivial

/-- The tokens among the parts are among those that are shown, and nothing behind them has a part
in an opening. -/
def Sealed (names shown : List Text) (parts : List Part) : Prop :=
  (∀ name ∈ names, parts.IsChain (Part.Seals name)) ∧ ∀ part ∈ parts, part.Among shown

instance (names shown : List Text) (parts : List Part) : Decidable (Sealed names shown parts) :=
  inferInstanceAs (Decidable (_ ∧ _))

/-- The text is made of parts that it is read as, and they are sealed. -/
def Settled (names shown : List Text) (t : Text) : Prop :=
  ∃ parts, (Tokenized parts ∧ Sealed names shown parts) ∧ textOf parts = t

theorem Settled.mono {some : List Text} (h : Settled names shown t)
    (hsome : ∀ name ∈ some, name ∈ names) : Settled some shown t := by
  obtain ⟨parts, ⟨hparts, hsealed, hamong⟩, htext⟩ := h
  exact ⟨parts, ⟨hparts, fun name hname => hsealed name (hsome name hname), hamong⟩, htext⟩

theorem Settled.tokened (h : Settled names shown t) : Tokened t := by
  obtain ⟨parts, ⟨hparts, -⟩, htext⟩ := h
  exact ⟨parts, hparts, htext⟩

theorem sealed_map_char (names shown : List Text) (t : Text) :
    Sealed names shown (t.map Part.char) := by
  refine ⟨fun name _ => (List.isChain_map Part.char).mpr ?_, fun part hpart => ?_⟩
  · exact List.isChain_iff_getElem.mpr fun _ _ => trivial
  · obtain ⟨c, -, rfl⟩ := List.mem_map.mp hpart
    trivial

theorem Plain.settled (h : Plain t) (names shown : List Text) : Settled names shown t :=
  ⟨t.map Part.char, ⟨h.tokenized, sealed_map_char names shown t⟩, textOf_map_char t⟩

/-- Replacing the tokens one after the other comes to the same as replacing them in one pass. -/
theorem insertTokens_eq_substituteTokens (htokens : Named tokens)
    (hinserted : Inserted shown tokens) (h : Settled (tokens.map Prod.fst) shown t) :
    Driver.insertTokens tokens t = substituteTokens tokens t := by
  obtain ⟨parts, ⟨hparts, hsealed, hamong⟩, rfl⟩ := h
  have hfilled : Driver.insertTokens tokens (filled [] parts) = filled ([] ++ tokens) parts :=
    insertTokens_filled htokens hinserted hparts hamong fun token htoken =>
      hsealed token.1 (List.mem_map_of_mem htoken)
  rw [filled_nil, List.nil_append] at hfilled
  rw [hfilled, substituteTokens_textOf htokens hparts]

/-- Texts can be put together at a line feed that has no part in an opening. -/
theorem Settled.append_feed (hnames : ∀ name ∈ names, ¬Continues name '\n')
    (hs : Settled names shown s) (ht : Settled names shown t) :
    Settled names shown (s ++ '\n' :: t) := by
  obtain ⟨ps, ⟨hps, hpsealed, hpamong⟩, rfl⟩ := hs
  obtain ⟨qs, ⟨hqs, hqsealed, hqamong⟩, rfl⟩ := ht
  refine ⟨ps ++ Part.char '\n' :: qs, ⟨hps.append_feed hqs, fun name hname => ?_,
    fun part hpart => ?_⟩, textOf_append_feed ps qs⟩
  · refine List.isChain_append.mpr ⟨hpsealed name hname, ?_, fun p _ q hq => ?_⟩
    · exact List.isChain_cons.mpr ⟨fun _ _ => trivial, hqsealed name hname⟩
    · cases hq
      cases p with
      | char c => trivial
      | token _ _ => exact hnames name hname
  · rcases List.mem_append.mp hpart with hpart | hpart
    · exact hpamong part hpart
    · rcases List.mem_cons.mp hpart with rfl | hpart
      · trivial
      · exact hqamong part hpart

theorem settled_unlines (hnames : ∀ name ∈ names, ¬Continues name '\n')
    (h : ∀ line ∈ lines, Settled names shown line) : Settled names shown (unlines lines) := by
  induction lines with
  | nil => exact Plain.settled List.isChain_nil names shown
  | cons line rest ih =>
      have hline := h line (List.mem_cons_self ..)
      have hrest := ih fun line hline => h line (List.mem_cons_of_mem _ hline)
      cases rest with
      | nil => rwa [unlines_singleton]
      | cons next rest =>
          rw [unlines_cons_cons]
          exact hline.append_feed hnames hrest

theorem filled_map_char (tokens : List (Text × Text)) (t : Text) :
    filled tokens (t.map Part.char) = t := by
  have hsame : filled tokens (t.map Part.char) = textOf (t.map Part.char) := by
    unfold filled textOf
    rw [List.flatMap_map, List.flatMap_map]
    rfl
  rw [hsame, textOf_map_char]

/-- A text without tokens stays as it is in one pass, too. -/
theorem substituteTokens_of_plain (htokens : Named tokens) (h : Plain t) :
    substituteTokens tokens t = t := by
  have hfilled := substituteTokens_textOf htokens h.tokenized
  rwa [filled_map_char, textOf_map_char] at hfilled

/-- One pass goes through a text line by line. -/
theorem substituteTokens_unlines (htokens : Named tokens) (h : ∀ line ∈ lines, Tokened line) :
    substituteTokens tokens (unlines lines) = unlines (lines.map (substituteTokens tokens)) := by
  induction lines with
  | nil => exact substituteTokens_of_plain htokens List.isChain_nil
  | cons line rest ih =>
      have hrest := fun line hline => h line (List.mem_cons_of_mem _ hline)
      cases rest with
      | nil => simp
      | cons next rest =>
          obtain ⟨ps, hps, hline⟩ := h line (List.mem_cons_self ..)
          obtain ⟨qs, hqs, hbehind⟩ := tokened_unlines hrest
          have htext : textOf (ps ++ Part.char '\n' :: qs) = unlines (line :: next :: rest) := by
            rw [textOf_append_feed, hline, hbehind, unlines_cons_cons]
          have hfilled : filled tokens (ps ++ Part.char '\n' :: qs) =
              filled tokens ps ++ '\n' :: filled tokens qs := filled_append tokens ps _
          rw [← htext, substituteTokens_textOf htokens (hps.append_feed hqs), hfilled,
            ← substituteTokens_textOf htokens hps, ← substituteTokens_textOf htokens hqs, hline,
            hbehind, ih hrest]
          rfl

end KeyboardLayout.Text.Placeholder
