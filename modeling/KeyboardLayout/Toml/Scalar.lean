import KeyboardLayout.Text.Decimal
import KeyboardLayout.Toml.Value

/-!
# TOML scalars

Strings in their four notations, numbers, truth values, dates and times. A reader of strings starts
behind the opening quotes and answers the text and what follows the closing quotes.
-/

namespace KeyboardLayout.Toml

def isBlank (c : Char) : Bool :=
  c == ' ' || c == '\t'

/-- A character that a string or a comment may hold as itself. -/
def isPrintable (c : Char) : Bool :=
  c == '\t' || (0x20 ≤ c.toNat && c.toNat ≠ 0x7F)

def lineEnd? : Text → Option Text
  | '\n' :: rest => some rest
  | '\r' :: '\n' :: rest => some rest
  | _ => none

/-! ## Strings -/

/-- What a backslash and one character stand for. -/
def escape? : Char → Option Char
  | 'b' => some '\x08'
  | 't' => some '\t'
  | 'n' => some '\n'
  | 'f' => some '\x0c'
  | 'r' => some '\r'
  | 'e' => some '\x1b'
  | '"' => some '"'
  | '\\' => some '\\'
  | _ => none

/-- A text with one more character in front. -/
def prepend (c : Char) : Option (Text × Text) → Option (Text × Text) :=
  Option.map fun (t, rest) => (c :: t, rest)

/-- A string between quotes, on one line. -/
def basicString : Text → Option (Text × Text)
  | [] => none
  | '"' :: rest => some ([], rest)
  | '\\' :: 'x' :: a :: b :: rest => do
    prepend (← Text.charOfHex? [a, b]) (basicString rest)
  | '\\' :: 'u' :: a :: b :: c :: d :: rest => do
    prepend (← Text.charOfHex? [a, b, c, d]) (basicString rest)
  | '\\' :: 'U' :: a :: b :: c :: d :: e :: f :: g :: h :: rest => do
    prepend (← Text.charOfHex? [a, b, c, d, e, f, g, h]) (basicString rest)
  | '\\' :: c :: rest => do prepend (← escape? c) (basicString rest)
  | c :: rest => if isPrintable c then prepend c (basicString rest) else none

/-- A string between apostrophes, on one line. -/
def literalString : Text → Option (Text × Text)
  | [] => none
  | '\'' :: rest => some ([], rest)
  | c :: rest => if isPrintable c then prepend c (literalString rest) else none

/-- Only blanks lie before the end of the line. -/
def atLineEnd (t : Text) : Bool :=
  (lineEnd? (t.dropWhile isBlank)).isSome

/-- A string between triple quotes. Up to two quotes may stand before the closing ones. After a
backslash at the end of a line, everything up to the next visible character is skipped. -/
def multilineBasic : (skipping : Bool) → Text → Option (Text × Text)
  | _, [] => none
  | _, '"' :: '"' :: '"' :: '"' :: '"' :: rest => some (['"', '"'], rest)
  | _, '"' :: '"' :: '"' :: '"' :: rest => some (['"'], rest)
  | _, '"' :: '"' :: '"' :: rest => some ([], rest)
  | skipping, '\r' :: '\n' :: rest =>
    if skipping then multilineBasic true rest else prepend '\n' (multilineBasic false rest)
  | _, '\\' :: 'x' :: a :: b :: rest => do
    prepend (← Text.charOfHex? [a, b]) (multilineBasic false rest)
  | _, '\\' :: 'u' :: a :: b :: c :: d :: rest => do
    prepend (← Text.charOfHex? [a, b, c, d]) (multilineBasic false rest)
  | _, '\\' :: 'U' :: a :: b :: c :: d :: e :: f :: g :: h :: rest => do
    prepend (← Text.charOfHex? [a, b, c, d, e, f, g, h]) (multilineBasic false rest)
  | _, '\\' :: c :: rest =>
    if atLineEnd (c :: rest) then multilineBasic true (c :: rest)
    else do prepend (← escape? c) (multilineBasic false rest)
  | skipping, c :: rest =>
    if skipping && (isBlank c || c == '\n') then multilineBasic true rest
    else if isPrintable c || c == '\n' then prepend c (multilineBasic false rest)
    else none

/-- A string between triple apostrophes. -/
def multilineLiteral : Text → Option (Text × Text)
  | [] => none
  | '\'' :: '\'' :: '\'' :: '\'' :: '\'' :: rest => some (['\'', '\''], rest)
  | '\'' :: '\'' :: '\'' :: '\'' :: rest => some (['\''], rest)
  | '\'' :: '\'' :: '\'' :: rest => some ([], rest)
  | '\r' :: '\n' :: rest => prepend '\n' (multilineLiteral rest)
  | c :: rest =>
    if isPrintable c || c == '\n' then prepend c (multilineLiteral rest) else none

/-- The string that starts here. A line end behind triple quotes does not count. -/
def string? : Text → Option (Text × Text)
  | '"' :: '"' :: '"' :: rest => multilineBasic false ((lineEnd? rest).getD rest)
  | '\'' :: '\'' :: '\'' :: rest => multilineLiteral ((lineEnd? rest).getD rest)
  | '"' :: rest => basicString rest
  | '\'' :: rest => literalString rest
  | _ => none

/-! ## Numbers -/

/-- Digits without the underscores that may stand between any two of them. -/
def ungroup? (isDigit : Char → Bool) : Text → Option Text
  | [] => none
  | [c] => if isDigit c then some [c] else none
  | c :: '_' :: rest =>
    if isDigit c then (ungroup? isDigit rest).map (c :: ·) else none
  | c :: rest => if isDigit c then (ungroup? isDigit rest).map (c :: ·) else none

/-- A number in a base, with underscores. -/
def grouped? (base : Nat) (t : Text) : Option Nat :=
  (ungroup? (fun c => (Text.digit? base c).isSome) t).bind (Text.natural? base)

/-- Decimal digits with underscores and without an idle zero. -/
def wholeDigits? (t : Text) : Option Text := do
  let digits ← ungroup? Char.isDigit t
  if digits.head? = some '0' ∧ digits ≠ ['0'] then none else return digits

/-- A text without its sign, and whether it was a minus. -/
def unsign : Text → Bool × Text
  | '-' :: rest => (true, rest)
  | '+' :: rest => (false, rest)
  | t => (false, t)

/-- The integer that a text writes. -/
def integer? (t : Text) : Option Int :=
  match t with
  | '0' :: 'x' :: digits => (grouped? 16 digits).map Int.ofNat
  | '0' :: 'o' :: digits => (grouped? 8 digits).map Int.ofNat
  | '0' :: 'b' :: digits => (grouped? 2 digits).map Int.ofNat
  | t => do
    let (isNegative, body) := unsign t
    let n ← (wholeDigits? body).bind (Text.natural? 10)
    return if isNegative then -(n : Int) else n

/-- The decimal number that a text without sign writes; it has a fraction or an exponent. -/
def decimal? (t : Text) : Option Text.Decimal := do
  let isExponentMark (c : Char) : Bool := c == 'e' || c == 'E'
  let mantissa := t.takeWhile fun c => !isExponentMark c
  let power := t.dropWhile fun c => !isExponentMark c
  let whole ← wholeDigits? (mantissa.takeWhile (· != '.'))
  let fraction ← match mantissa.dropWhile (· != '.') with
    | [] => some []
    | _ :: digits => ungroup? Char.isDigit digits
  let exponent ← match power with
    | [] => if mantissa.contains '.' then some (0 : Int) else none
    | _ :: rest => do
      let (isNegative, digits) := unsign rest
      let n ← grouped? 10 digits
      some (if isNegative then -(n : Int) else n)
  return ⟨whole, fraction, exponent⟩

/-- The floating-point number that a text writes. -/
def float? (t : Text) : Option Value :=
  let body := (unsign t).2
  if body = "inf".toList ∨ body = "nan".toList then some (.float false)
  else (decimal? body).map fun d => .float (!d.isFinite)

/-! ## Dates and times -/

/-- A number of exactly so many digits at the start of a text. -/
def digits? (count : Nat) (t : Text) : Option (Nat × Text) := do
  if t.length < count then none
  let n ← Text.natural? 10 (t.take count)
  return (n, t.drop count)

/-- The text behind a character. -/
def behind? (c : Char) : Text → Option Text
  | [] => none
  | d :: rest => if c = d then some rest else none

/-- The number of days of a month. -/
def daysOf (year month : Nat) : Nat :=
  if month = 2 then
    if year % 4 = 0 ∧ (year % 100 ≠ 0 ∨ year % 400 = 0) then 29 else 28
  else if month = 4 ∨ month = 6 ∨ month = 9 ∨ month = 11 then 30
  else 31

def behindDate? (t : Text) : Option Text := do
  let (year, t) ← digits? 4 t
  let (month, t) ← digits? 2 (← behind? '-' t)
  let (day, t) ← digits? 2 (← behind? '-' t)
  if 1 ≤ month ∧ month ≤ 12 ∧ 1 ≤ day ∧ day ≤ daysOf year month then return t else none

/-- The text behind the seconds of a time, which may be missing. -/
def behindSeconds? (t : Text) : Option Text :=
  match t with
  | ':' :: rest => do
    let (second, rest) ← digits? 2 rest
    if 60 < second then none
    match rest with
    | '.' :: fraction =>
      let rest := fraction.dropWhile Char.isDigit
      if rest.length < fraction.length then return rest else none
    | rest => return rest
  | t => some t

def behindTime? (t : Text) : Option Text := do
  let (hour, t) ← digits? 2 t
  let (minute, t) ← digits? 2 (← behind? ':' t)
  if 24 ≤ hour ∨ 60 ≤ minute then none
  behindSeconds? t

/-- The text is empty or the distance from universal time. -/
def isOffset (t : Text) : Bool :=
  match t with
  | [] | ['Z'] | ['z'] => true
  | sign :: rest =>
    (sign == '+' || sign == '-') &&
      (do
        let (hour, rest) ← digits? 2 rest
        let (minute, rest) ← digits? 2 (← behind? ':' rest)
        return decide (hour < 24 ∧ minute < 60) && rest.isEmpty).getD false

/-- A date, a time or a date and a time. -/
def isDate (t : Text) : Bool :=
  match behindDate? t with
  | some [] => true
  | some (c :: rest) =>
    (c == 'T' || c == 't' || c == ' ') && (behindTime? rest).any isOffset
  | none => behindTime? t == some []

/-! ## Bare scalars -/

/-- A character that ends a scalar without quotes. -/
def endsScalar (c : Char) : Bool :=
  isBlank c || ['\n', '\r', ',', ']', '\x7d', '#', '='].contains c

/-- The text of the scalar that starts here, and what follows it. A time may follow its date after
a space. -/
def bareScalar (t : Text) : Text × Text :=
  let word := t.takeWhile fun c => !endsScalar c
  let rest := t.drop word.length
  match rest with
  | ' ' :: d :: more =>
    if d.isDigit && behindDate? word == some [] then
      let time := (d :: more).takeWhile fun c => !endsScalar c
      (word ++ ' ' :: time, (d :: more).drop time.length)
    else (word, rest)
  | _ => (word, rest)

/-- The value of a scalar without quotes. -/
def scalar? (word : Text) : Option Value :=
  if word = "true".toList then some (.bool true)
  else if word = "false".toList then some (.bool false)
  else
    match integer? word with
    | some i => some (.integer i)
    | none => if isDate word then some .date else float? word

end KeyboardLayout.Toml
