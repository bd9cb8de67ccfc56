import KeyboardLayout.Toml.Scalar

/-!
# TOML documents

A document is a list of statements: assignments and the headers of tables. `Document.ofText?` reads
them one after the other and answers the fields of the top table, or nothing if the text is not well
formed.
-/

namespace KeyboardLayout.Toml

/-! ## Space and keys -/

def skipBlanks (t : Text) : Text :=
  t.dropWhile isBlank

/-- The text behind blanks, line ends and comments. -/
def skipTrivia? : (inComment : Bool) → Text → Option Text
  | _, [] => some []
  | _, '\n' :: rest => skipTrivia? false rest
  | _, '\r' :: '\n' :: rest => skipTrivia? false rest
  | true, c :: rest => if isPrintable c then skipTrivia? true rest else none
  | false, c :: rest =>
    if isBlank c then skipTrivia? false rest
    else if c = '#' then skipTrivia? true rest
    else some (c :: rest)

/-- The text behind the line on which a statement ends: blanks and a comment may follow it. -/
def skipLine? (t : Text) : Option Text :=
  let rest := skipBlanks t
  let rest := if rest.head? = some '#' then rest.dropWhile isPrintable else rest
  if rest.isEmpty then some [] else lineEnd? rest

/-- A character of a key without quotes. -/
def isKeyChar (c : Char) : Bool :=
  c.isAlphanum || c == '_' || c == '-'

def key? : Text → Option (Text × Text)
  | '"' :: rest => basicString rest
  | '\'' :: rest => literalString rest
  | t =>
    let key := t.takeWhile isKeyChar
    if key.isEmpty then none else some (key, t.drop key.length)

/-- A dotted key, with blanks around its parts. -/
def path? : (fuel : Nat) → Text → Option (List Text × Text)
  | 0, _ => none
  | fuel + 1, t => do
    let (key, rest) ← key? (skipBlanks t)
    match skipBlanks rest with
    | '.' :: rest => do
      let (path, rest) ← path? fuel rest
      return (key :: path, rest)
    | rest => return ([key], rest)

/-! ## Values -/

mutual

/-- The value that starts here. Arrays and inline tables are nested no deeper than `depth`. -/
def value? : (fuel depth : Nat) → Text → Option (Value × Text)
  | 0, _, _ => none
  | fuel + 1, depth, t =>
    match t with
    | '[' :: rest =>
      if depth = 0 then none
      else (items? fuel (depth - 1) rest).map fun (items, rest) => (.array false items, rest)
    | '\x7b' :: rest =>
      if depth = 0 then none
      else (fields? fuel (depth - 1) [] rest).map fun (fields, rest) =>
        (.table .inline fields, rest)
    | '"' :: _ | '\'' :: _ => (string? t).map fun (s, rest) => (.text s, rest)
    | t =>
      let (word, rest) := bareScalar t
      (scalar? word).map (·, rest)

/-- The items of an array, behind its bracket or a comma. -/
def items? : (fuel depth : Nat) → Text → Option (List Value × Text)
  | 0, _, _ => none
  | fuel + 1, depth, t => do
    match ← skipTrivia? false t with
    | ']' :: rest => return ([], rest)
    | t =>
      let (item, rest) ← value? fuel depth t
      match ← skipTrivia? false rest with
      | ',' :: rest =>
        let (items, rest) ← items? fuel depth rest
        return (item :: items, rest)
      | ']' :: rest => return ([item], rest)
      | _ => none

/-- The fields of an inline table, behind its brace or a comma. -/
def fields? : (fuel depth : Nat) → Fields → Text → Option (Fields × Text)
  | 0, _, _, _ => none
  | fuel + 1, depth, fields, t => do
    match ← skipTrivia? false t with
    | '\x7d' :: rest => return (fields, rest)
    | t =>
      let (path, rest) ← path? fuel t
      let rest ← behind? '=' rest
      let (value, rest) ← value? fuel depth (skipBlanks rest)
      let fields ← Fields.assign value path fields
      match ← skipTrivia? false rest with
      | ',' :: rest => fields? fuel depth fields rest
      | '\x7d' :: rest => return (fields, rest)
      | _ => none

end

/-! ## Statements -/

inductive Statement
  | assign (path : List Text) (value : Value)
  | header (path : List Text)
  | element (path : List Text)

/-- How deep arrays and inline tables may be nested. -/
def maxDepth : Nat := 80

def statement? (t : Text) : Option (Statement × Text) :=
  let fuel := 2 * t.length + 2
  match t with
  | '[' :: '[' :: rest => do
    let (path, rest) ← path? fuel rest
    let rest ← behind? ']' (← behind? ']' rest)
    return (.element path, rest)
  | '[' :: rest => do
    let (path, rest) ← path? fuel rest
    return (.header path, ← behind? ']' rest)
  | t => do
    let (path, rest) ← path? fuel t
    let rest ← behind? '=' rest
    let (value, rest) ← value? fuel maxDepth (skipBlanks rest)
    return (.assign path value, rest)

/-- The statements from here on. -/
def statements? : (fuel : Nat) → Text → Option (List Statement)
  | 0, _ => none
  | fuel + 1, t => do
    match ← skipTrivia? false t with
    | [] => return []
    | t =>
      let (statement, rest) ← statement? t
      return statement :: (← statements? fuel (← skipLine? rest))

/-- A document that has been read in part. -/
structure Document where
  /-- The fields of the top table. -/
  fields : Fields := []
  /-- The table that assignments go to. -/
  current : List Text := []

namespace Document

/-- The document with one more statement. -/
def add (document : Document) : Statement → Option Document
  | .assign path value => do
    let fields ← Fields.atPath (Fields.assign value path) document.current document.fields
    return { document with fields }
  | .header path => do
    let fields ← Fields.openAt Fields.openHeader path document.fields
    return ⟨fields, path⟩
  | .element path => do
    let fields ← Fields.openAt Fields.openElement path document.fields
    return ⟨fields, path⟩

/-- The fields of the top table of a text. A byte order mark at its start does not count. -/
def ofText? (t : Text) : Option Fields := do
  let t := if t.head? = some '\ufeff' then t.drop 1 else t
  let statements ← statements? (t.length + 1) t
  let document ← statements.foldlM add {}
  return document.fields

end Document

end KeyboardLayout.Toml
