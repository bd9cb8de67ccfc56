import KeyboardLayout.Proofs.LineMarkers
import Mathlib.Data.List.Chain

/-!
# Tokens one by one

A text with tokens is made of parts. While no value and no neighbour brings a new token about, each
replacement touches the parts of its own name and nothing else (`substituteToken_textOf`), and what
it leaves is again made of such parts (`Tokenized.assign`). So the tokens of a text of lines can be
inserted line by line (`insertTokens_unlines`).
-/

namespace KeyboardLayout.Text.Placeholder

/-- A character of a text, or a token with its default. -/
inductive Part
  | char (c : Char)
  | token (name : Text) (default? : Option Text)
  deriving DecidableEq, Repr

namespace Part

def text : Part → Text
  | char c => [c]
  | token name none => "$\x7b".toList ++ name ++ ['\x7d']
  | token name (some value) => "$\x7b".toList ++ name ++ '=' :: value ++ ['\x7d']

/-- The token can be read from its text. -/
def Proper : Part → Prop
  | char _ => True
  | token name default? => (∀ c ∈ name, c ∉ ['$', '=', '\x7d'])
      ∧ ∀ value ∈ default?, ∀ c ∈ value, c ∉ ['$', '\x7d']

/-- No token begins where the parts meet, whatever stands for them. -/
def Apart : Part → Part → Prop
  | char c, char d => ¬(c = '$' ∧ d = '\x7b')
  | char c, token _ _ => c ≠ '$'
  | token _ _, char d => d ≠ '\x7b'
  | token _ _, token _ _ => False

/-- The part with the tokens of that name replaced. -/
def assign (name value : Text) : Part → List Part
  | char c => [char c]
  | token other default? =>
    if other = name then (chosen default? value).map char else [token other default?]

theorem assign_token (name value other : Text) (default? : Option Text) :
    (token other default?).assign name value =
      if other = name then (chosen default? value).map char else [token other default?] :=
  rfl

end Part

def textOf (parts : List Part) : Text :=
  parts.flatMap Part.text

def assign (name value : Text) (parts : List Part) : List Part :=
  parts.flatMap (Part.assign name value)

/-- The parts are the ones that their text is read as. -/
structure Tokenized (parts : List Part) : Prop where
  proper : ∀ part ∈ parts, part.Proper
  apart : parts.IsChain Part.Apart

/-- The text holds no start of a token. -/
def Plain (t : Text) : Prop :=
  t.IsChain fun c d => ¬(c = '$' ∧ d = '\x7b')

variable {name value : Text} {parts : List Part} {t : Text}

theorem plain_iff : Plain t ↔ ¬"$\x7b".toList <:+: t := by
  unfold Plain
  rw [List.isChain_iff_forall_rel_of_append_cons_cons]
  constructor
  · rintro h ⟨s, u, rfl⟩
    exact h (List.append_assoc s ['$', '\x7b'] u) ⟨rfl, rfl⟩
  · rintro h a b s u rfl ⟨rfl, rfl⟩
    exact h ⟨s, u, List.append_assoc s ['$', '\x7b'] u⟩

/-! ## Reading tokens -/

/-- What is read behind the start of a token. -/
theorem tokenAt?_brace (name t : Text) :
    tokenAt? name ('$' :: '\x7b' :: t) =
      match after? name t with
      | some ('\x7d' :: rest) => some (none, rest)
      | some ('=' :: rest) =>
        match rest.dropWhile (· != '\x7d') with
        | _ :: behind => some (some (rest.takeWhile (· != '\x7d')), behind)
        | [] => none
      | _ => none :=
  rfl

theorem tokenAt?_cons_of_ne {c : Char} (h : c ≠ '$') (name t : Text) :
    tokenAt? name (c :: t) = none := by
  have hafter : after? ("$\x7b".toList ++ name) (c :: t) = none := if_neg (Ne.symm h)
  rw [tokenAt?, hafter]

theorem tokenAt?_dollar {t : Text} (h : t.head? ≠ some '\x7b') (name : Text) :
    tokenAt? name ('$' :: t) = none := by
  have hopening : "$\x7b".toList ++ name = '$' :: '\x7b' :: name := rfl
  have hafter : after? ('$' :: '\x7b' :: name) ('$' :: t) = none := by
    cases t with
    | nil => rfl
    | cons d t =>
        have hd : '\x7b' ≠ d := fun heq => h (congrArg some heq.symm)
        simp only [after?, if_true, if_neg hd]
  rw [tokenAt?, hopening, hafter]

theorem substituteToken_cons_of_none {c : Char} (h : tokenAt? name (c :: t) = none)
    (value : Text) :
    substituteToken name value (c :: t) = c :: substituteToken name value t := by
  rw [substituteToken]
  split
  · rename_i hsome
    rw [h] at hsome
    cases hsome
  · rfl

theorem substituteToken_of_some {default? : Option Text} {rest : Text}
    (h : tokenAt? name t = some (default?, rest)) (value : Text) :
    substituteToken name value t = chosen default? value ++ substituteToken name value rest := by
  cases t with
  | nil => cases h
  | cons c t =>
      rw [substituteToken]
      split
      · rename_i hsome
        rw [h] at hsome
        cases hsome
        rfl
      · rename_i hnone
        rw [h] at hnone
        cases hnone

theorem substituteToken_append {s : Text} (h : '$' ∉ s) (name value t : Text) :
    substituteToken name value (s ++ t) = s ++ substituteToken name value t := by
  induction s with
  | nil => rfl
  | cons c s ih =>
      rw [List.mem_cons, not_or] at h
      rw [List.cons_append, substituteToken_cons_of_none (tokenAt?_cons_of_ne (Ne.symm h.1) _ _),
        ih h.2]
      rfl

/-- The name of a token ends where an equals sign or a brace stands. -/
theorem name_eq_of_append_eq {other rest rest' : Text} {a b : Char}
    (hname : ∀ c ∈ name, c ∉ ['$', '=', '\x7d']) (hother : ∀ c ∈ other, c ∉ ['$', '=', '\x7d'])
    (ha : a ∈ ['=', '\x7d']) (hb : b ∈ ['=', '\x7d'])
    (h : name ++ a :: rest = other ++ b :: rest') : name = other := by
  have htake : ∀ (s : Text) (e : Char) (r : Text), (∀ c ∈ s, c ∉ ['$', '=', '\x7d']) →
      e ∈ ['=', '\x7d'] →
      (s ++ e :: r).takeWhile (fun c => ! List.contains ['=', '\x7d'] c) = s := by
    intro s e r hs he
    have hinside : ∀ c ∈ s, (! List.contains ['=', '\x7d'] c) = true := by
      intro c hc
      have := hs c hc
      simp_all
    have hend : (! List.contains ['=', '\x7d'] e) = false := by
      rw [List.contains_iff_mem.mpr he]
      rfl
    rw [List.takeWhile_append_of_pos hinside, List.takeWhile_cons, hend]
    exact List.append_nil s
  rw [← htake name a rest hname ha, h, htake other b rest' hother hb]

theorem tokenAt?_text {other : Text} {default? : Option Text}
    (hname : ∀ c ∈ name, c ∉ ['$', '=', '\x7d']) (h : (Part.token other default?).Proper)
    (t : Text) :
    tokenAt? name ((Part.token other default?).text ++ t) =
      if other = name then some (default?, t) else none := by
  obtain ⟨hother, hdefault⟩ := h
  have htext : ∃ e tail,
      (Part.token other default?).text ++ t = '$' :: '\x7b' :: (other ++ e :: tail)
      ∧ e ∈ ['=', '\x7d'] ∧ tokenAt? other ('$' :: '\x7b' :: (other ++ e :: tail)) =
        some (default?, t) := by
    cases default? with
    | none =>
        refine ⟨'\x7d', t, by simp [Part.text], by simp, ?_⟩
        rw [tokenAt?_brace, after?_eq_some_iff.mpr rfl]
        rfl
    | some value =>
        have hvalue : '\x7d' ∉ value := fun hmem => hdefault value rfl _ hmem (by simp)
        obtain ⟨htake, hdrop⟩ := span_append_cons hvalue t
        refine ⟨'=', value ++ '\x7d' :: t, by simp [Part.text], by simp, ?_⟩
        rw [tokenAt?_brace, after?_eq_some_iff.mpr rfl]
        simp only [htake, hdrop]
  obtain ⟨e, tail, htext, he, hread⟩ := htext
  rw [htext]
  split
  · rename_i heq
    rw [← heq, hread]
  · rename_i hne
    rw [tokenAt?_brace]
    split
    · rename_i rest hafter
      exact absurd (name_eq_of_append_eq hother hname he (by simp)
        (after?_eq_some_iff.mp hafter)) hne
    · rename_i rest hafter
      exact absurd (name_eq_of_append_eq hother hname he (by simp)
        (after?_eq_some_iff.mp hafter)) hne
    · rfl

/-! ## Replacing tokens -/

theorem Part.exists_text_eq {default? : Option Text} (h : (Part.token name default?).Proper) :
    ∃ inner, (Part.token name default?).text = '$' :: inner ∧ '$' ∉ inner := by
  obtain ⟨hname, hdefault⟩ := h
  have hdollar : '$' ∉ name := fun hmem => hname _ hmem (by simp)
  cases default? with
  | none => exact ⟨'\x7b' :: name ++ ['\x7d'], rfl, by simp [hdollar]⟩
  | some value =>
      have hvalue : '$' ∉ value := fun hmem => hdefault value rfl _ hmem (by simp)
      exact ⟨'\x7b' :: name ++ '=' :: value ++ ['\x7d'], rfl, by simp [hdollar, hvalue]⟩

@[simp] theorem textOf_append (ps qs : List Part) : textOf (ps ++ qs) = textOf ps ++ textOf qs :=
  List.flatMap_append

@[simp] theorem textOf_map_char (t : Text) : textOf (t.map Part.char) = t := by
  induction t with
  | nil => rfl
  | cons c t ih => exact congrArg (c :: ·) ih

theorem head?_textOf_ne {c : Char} (h : (Part.char c :: parts).IsChain Part.Apart) (hc : c = '$') :
    (textOf parts).head? ≠ some '\x7b' := by
  cases parts with
  | nil => simp [textOf]
  | cons next rest =>
      have hnext := (List.isChain_cons_cons.mp h).1
      cases next with
      | char d => simpa [textOf, Part.text, Part.Apart, hc] using hnext
      | token name default? => exact absurd hc hnext

/-- Replacing a token in a text replaces the parts of that name. -/
theorem substituteToken_textOf (hname : ∀ c ∈ name, c ∉ ['$', '=', '\x7d'])
    (h : Tokenized parts) (value : Text) :
    substituteToken name value (textOf parts) = textOf (assign name value parts) := by
  obtain ⟨hproper, hapart⟩ := h
  induction parts with
  | nil => simp [textOf, assign, substituteToken]
  | cons part rest ih =>
      have hrest := ih (fun p hp => hproper p (List.mem_cons_of_mem _ hp)) hapart.of_cons
      have htext : textOf (part :: rest) = part.text ++ textOf rest := List.flatMap_cons
      have hassign : assign name value (part :: rest) =
          part.assign name value ++ assign name value rest := List.flatMap_cons
      rw [htext, hassign, textOf_append, ← hrest]
      cases part with
      | char c =>
          have hnone : tokenAt? name (c :: textOf rest) = none := by
            by_cases hc : c = '$'
            · rw [hc]
              exact tokenAt?_dollar (head?_textOf_ne hapart hc) name
            · exact tokenAt?_cons_of_ne hc name _
          exact substituteToken_cons_of_none hnone value
      | token other default? =>
          have hread := tokenAt?_text hname (hproper _ (List.mem_cons_self ..)) (textOf rest)
          rw [Part.assign_token]
          by_cases hother : other = name
          · rw [if_pos hother] at hread ⊢
            rw [substituteToken_of_some hread, textOf_map_char]
          · obtain ⟨inner, hinner, hdollar⟩ :=
              Part.exists_text_eq (hproper _ (List.mem_cons_self ..))
            rw [if_neg hother] at hread ⊢
            have hsingle : textOf [Part.token other default?] = '$' :: inner := by
              rw [← hinner]
              exact List.append_nil _
            rw [hinner, List.cons_append] at hread ⊢
            rw [substituteToken_cons_of_none hread, substituteToken_append hdollar, hsingle]
            rfl

/-! ## What replacing leaves -/

theorem plain_of_not_mem (h : '$' ∉ t) : Plain t :=
  List.isChain_iff_getElem.mpr fun _ _ heq => h (heq.1 ▸ List.getElem_mem _)

theorem plain_chosen {default? : Option Text} (h : (Part.token name default?).Proper)
    (hvalue : Plain value) : Plain (chosen default? value) := by
  unfold chosen
  split
  · cases default? with
    | none => exact hvalue
    | some text => exact plain_of_not_mem fun hmem => h.2 text rfl _ hmem (by simp)
  · exact hvalue

/-- The characters of a text without tokens stay apart in front of parts that stay apart, if
they do where they meet. -/
theorem isChain_map_char_append (ht : Plain t) (hparts : parts.IsChain Part.Apart)
    (hmeet : ∀ c ∈ t.getLast?, ∀ q ∈ parts.head?, (Part.char c).Apart q) :
    (t.map Part.char ++ parts).IsChain Part.Apart := by
  refine List.isChain_append.mpr ⟨(List.isChain_map Part.char).mpr ht, hparts, ?_⟩
  intro p hp
  rw [List.getLast?_map] at hp
  obtain ⟨c, hc, rfl⟩ := Option.map_eq_some_iff.mp hp
  exact hmeet c hc

/-- What keeps apart from a token keeps apart from whatever comes in its place. -/
theorem apart_head?_append {p : Part} {other : Text} {default? : Option Text} {rest : List Part}
    (hp : p.Apart (.token other default?)) (hrest : ∀ c, ∀ q ∈ rest.head?, (Part.char c).Apart q)
    (t : Text) : ∀ q ∈ (t.map Part.char ++ rest).head?, p.Apart q := by
  intro q hq
  cases p with
  | token _ _ => exact hp.elim
  | char c =>
      cases t with
      | nil => exact hrest c q hq
      | cons d more =>
          cases hq
          exact fun heq => hp heq.1

/-- Replacing keeps the parts apart, and what kept apart from the first of them still does. -/
theorem isChain_assign (hvalue : Plain value) (h : Tokenized parts) :
    (assign name value parts).IsChain Part.Apart
      ∧ ∀ p : Part, (∀ q ∈ parts.head?, p.Apart q) →
        ∀ q ∈ (assign name value parts).head?, p.Apart q := by
  obtain ⟨hproper, hapart⟩ := h
  induction parts with
  | nil => exact ⟨List.isChain_nil, fun _ h => h⟩
  | cons part rest ih =>
      obtain ⟨hchain, hhead⟩ :=
        ih (fun p hp => hproper p (List.mem_cons_of_mem _ hp)) hapart.of_cons
      have hnext : ∀ q ∈ rest.head?, part.Apart q := (List.isChain_cons.mp hapart).1
      have hassign : assign name value (part :: rest) =
          part.assign name value ++ assign name value rest := List.flatMap_cons
      have hkept : part.assign name value = [part] →
          (assign name value (part :: rest)).IsChain Part.Apart
            ∧ ∀ p : Part, (∀ q ∈ (part :: rest).head?, p.Apart q) →
              ∀ q ∈ (assign name value (part :: rest)).head?, p.Apart q := by
        intro hsame
        rw [hassign, hsame]
        exact ⟨List.isChain_cons.mpr ⟨hhead part hnext, hchain⟩, fun _ h => h⟩
      cases part with
      | char c => exact hkept rfl
      | token other default? =>
          by_cases hother : other = name
          · have hplain := plain_chosen (hproper _ (List.mem_cons_self ..)) hvalue
            -- what follows a token is a character that no dollar sign makes a token of
            have hafter : ∀ c, ∀ q ∈ rest.head?, (Part.char c).Apart q := by
              intro c q hq
              have := hnext q hq
              cases q with
              | char d => exact fun heq => this heq.2
              | token _ _ => exact this.elim
            rw [hassign, Part.assign_token, if_pos hother]
            refine ⟨isChain_map_char_append hplain hchain fun c _ => hhead _ (hafter c), ?_⟩
            exact fun p hp => apart_head?_append (hp _ rfl) (fun c => hhead _ (hafter c)) _
          · exact hkept (if_neg hother)

theorem Tokenized.assign (h : Tokenized parts) (hvalue : Plain value) :
    Tokenized (assign name value parts) := by
  refine ⟨fun part hpart => ?_, (isChain_assign hvalue h).1⟩
  obtain ⟨old, hold, hin⟩ := List.mem_flatMap.mp hpart
  cases old with
  | char c =>
      rw [Part.assign, List.mem_singleton] at hin
      rw [hin]
      trivial
  | token other default? =>
      rw [Part.assign_token] at hin
      split at hin
      · obtain ⟨c, -, rfl⟩ := List.mem_map.mp hin
        trivial
      · rw [List.mem_singleton.mp hin]
        exact h.proper _ hold

/-! ## Several tokens -/

variable {tokens : List (Text × Text)} {s : Text} {lines : List Text}

/-- The names can be told from what follows them, and no value holds the start of a token. -/
def Assignable (tokens : List (Text × Text)) : Prop :=
  ∀ token ∈ tokens, (∀ c ∈ token.1, c ∉ ['$', '=', '\x7d']) ∧ Plain token.2

/-- The parts with the tokens replaced, one after the other. -/
def assignAll (tokens : List (Text × Text)) (parts : List Part) : List Part :=
  tokens.foldl (fun parts token => assign token.1 token.2 parts) parts

theorem insertTokens_textOf (htokens : Assignable tokens) (h : Tokenized parts) :
    Driver.insertTokens tokens (textOf parts) = textOf (assignAll tokens parts) := by
  induction tokens generalizing parts with
  | nil => rfl
  | cons token rest ih =>
      obtain ⟨hname, hvalue⟩ := htokens token (List.mem_cons_self ..)
      have hrest : Assignable rest := fun token htoken =>
        htokens token (List.mem_cons_of_mem _ htoken)
      have hassigned : Tokenized (assign token.1 token.2 parts) := h.assign hvalue
      exact (congrArg (Driver.insertTokens rest) (substituteToken_textOf hname h token.2)).trans
        (ih hrest hassigned)

theorem assignAll_append (tokens : List (Text × Text)) (ps qs : List Part) :
    assignAll tokens (ps ++ qs) = assignAll tokens ps ++ assignAll tokens qs := by
  induction tokens generalizing ps qs with
  | nil => rfl
  | cons token rest ih =>
      have happend : assign token.1 token.2 (ps ++ qs) =
          assign token.1 token.2 ps ++ assign token.1 token.2 qs := List.flatMap_append
      exact (congrArg (assignAll rest) happend).trans (ih _ _)

theorem assignAll_map_char (tokens : List (Text × Text)) (t : Text) :
    assignAll tokens (t.map Part.char) = t.map Part.char := by
  induction tokens with
  | nil => rfl
  | cons token rest ih =>
      have hsame : assign token.1 token.2 (t.map Part.char) = t.map Part.char := by
        rw [assign, List.flatMap_map, List.map_eq_flatMap]
        rfl
      exact (congrArg (assignAll rest) hsame).trans ih

/-! ## Texts of lines -/

/-- The text is made of parts that it is read as. -/
def Tokened (t : Text) : Prop :=
  ∃ parts, Tokenized parts ∧ textOf parts = t

theorem Plain.tokenized (h : Plain t) : Tokenized (t.map Part.char) := by
  refine ⟨fun part hpart => ?_, (List.isChain_map Part.char).mpr h⟩
  obtain ⟨c, -, rfl⟩ := List.mem_map.mp hpart
  trivial

theorem Plain.tokened (h : Plain t) : Tokened t :=
  ⟨t.map Part.char, h.tokenized, textOf_map_char t⟩

/-- A text without tokens stays as it is. -/
theorem insertTokens_of_plain (htokens : Assignable tokens) (h : Plain t) :
    Driver.insertTokens tokens t = t := by
  have := insertTokens_textOf htokens h.tokenized
  rwa [assignAll_map_char, textOf_map_char] at this

theorem Tokenized.append_feed {ps qs : List Part} (hp : Tokenized ps) (hq : Tokenized qs) :
    Tokenized (ps ++ Part.char '\n' :: qs) := by
  refine ⟨fun part hpart => ?_, ?_⟩
  · rcases List.mem_append.mp hpart with hpart | hpart
    · exact hp.proper part hpart
    · rcases List.mem_cons.mp hpart with rfl | hpart
      · trivial
      · exact hq.proper part hpart
  · have hfeed : ∀ q : Part, (Part.char '\n').Apart q ∧ q.Apart (Part.char '\n') := by
      intro q
      cases q <;> simp [Part.Apart]
    refine List.isChain_append.mpr ⟨hp.apart, List.isChain_cons.mpr ⟨?_, hq.apart⟩, ?_⟩
    · exact fun q _ => (hfeed q).1
    · intro p _ q hq
      cases hq
      exact (hfeed p).2

theorem textOf_append_feed (ps qs : List Part) :
    textOf (ps ++ Part.char '\n' :: qs) = textOf ps ++ '\n' :: textOf qs := by
  rw [textOf_append]
  rfl

/-- Tokens are inserted on both sides of a line feed. -/
theorem insertTokens_append_feed (htokens : Assignable tokens) (hs : Tokened s) (ht : Tokened t) :
    Driver.insertTokens tokens (s ++ '\n' :: t) =
      Driver.insertTokens tokens s ++ '\n' :: Driver.insertTokens tokens t := by
  obtain ⟨ps, hps, rfl⟩ := hs
  obtain ⟨qs, hqs, rfl⟩ := ht
  have hfeed : assignAll tokens (Part.char '\n' :: qs) = Part.char '\n' :: assignAll tokens qs := by
    have hchar : assignAll tokens [Part.char '\n'] = [Part.char '\n'] :=
      assignAll_map_char tokens ['\n']
    have := assignAll_append tokens [Part.char '\n'] qs
    rwa [hchar] at this
  rw [← textOf_append_feed, insertTokens_textOf htokens (hps.append_feed hqs), assignAll_append,
    hfeed, textOf_append_feed, insertTokens_textOf htokens hps, insertTokens_textOf htokens hqs]

theorem tokened_unlines (h : ∀ line ∈ lines, Tokened line) : Tokened (unlines lines) := by
  induction lines with
  | nil => exact Plain.tokened List.isChain_nil
  | cons line rest ih =>
      have hline := h line (List.mem_cons_self ..)
      cases rest with
      | nil => rwa [unlines_singleton]
      | cons next rest =>
          obtain ⟨ps, hps, rfl⟩ := hline
          obtain ⟨qs, hqs, heq⟩ := ih fun line hline => h line (List.mem_cons_of_mem _ hline)
          exact ⟨_, hps.append_feed hqs, by rw [textOf_append_feed, heq, unlines_cons_cons]⟩

/-- The tokens of a text are inserted line by line. -/
theorem insertTokens_unlines (htokens : Assignable tokens) (h : ∀ line ∈ lines, Tokened line) :
    Driver.insertTokens tokens (unlines lines) =
      unlines (lines.map (Driver.insertTokens tokens)) := by
  induction lines with
  | nil => exact insertTokens_of_plain htokens List.isChain_nil
  | cons line rest ih =>
      have hrest := fun line hline => h line (List.mem_cons_of_mem _ hline)
      cases rest with
      | nil => simp
      | cons next rest =>
          rw [unlines_cons_cons, insertTokens_append_feed htokens (h line (List.mem_cons_self ..))
            (tokened_unlines hrest), ih hrest]
          rfl

/-! ## Reading parts -/

-- The instances are named: with all of `Char` in scope, another one goes through every character.
instance : DecidablePred Part.Proper
  | .char _ => isTrue trivial
  | .token name default? =>
    have : Decidable (∀ c ∈ name, c ∉ ['$', '=', '\x7d']) := List.decidableBAll _ name
    have (value : Text) : Decidable (∀ c ∈ value, c ∉ ['$', '\x7d']) := List.decidableBAll _ value
    have : Decidable (∀ value ∈ default?, ∀ c ∈ value, c ∉ ['$', '\x7d']) :=
      Option.decidableForallMem default?
    inferInstanceAs (Decidable (_ ∧ _))

instance : DecidableRel Part.Apart
  | .char _, .char _ => inferInstanceAs (Decidable (¬_))
  | .char _, .token _ _ => inferInstanceAs (Decidable (_ ≠ _))
  | .token _ _, .char _ => inferInstanceAs (Decidable (_ ≠ _))
  | .token _ _, .token _ _ => isFalse id

instance (parts : List Part) : Decidable (Tokenized parts) :=
  decidable_of_iff ((∀ part ∈ parts, part.Proper) ∧ parts.IsChain Part.Apart)
    ⟨fun h => ⟨h.1, h.2⟩, fun h => ⟨h.proper, h.apart⟩⟩

/-- The token that stands between braces. -/
def tokenOf (inner : Text) : Part :=
  match inner.dropWhile (· != '=') with
  | _ :: value => .token (inner.takeWhile (· != '=')) (some value)
  | [] => .token inner none

def Part.char? : Part → Option Char
  | char c => some c
  | token _ _ => none

/-- The parts of a text. -/
def partsOf : Text → List Part
  | [] => []
  | c :: rest =>
    match c, partsOf rest with
    | '$', .char '\x7b' :: more =>
      tokenOf ((more.takeWhile (· != .char '\x7d')).filterMap Part.char?) ::
        (more.dropWhile (· != .char '\x7d')).tail
    | c, parts => .char c :: parts

theorem tokened_of_partsOf (h : Tokenized (partsOf t) ∧ textOf (partsOf t) = t) : Tokened t :=
  ⟨partsOf t, h⟩

end KeyboardLayout.Text.Placeholder
