import KeyboardLayout.Command.Build
import KeyboardLayout.Command.View
import KeyboardLayout.Text.Number

/-!
# The command line

The arguments of the program as a request. An option is a dash and a letter or two dashes and a
word; its value stands behind it, after an equals sign or as the next argument, which must not look
like an option then. Letters may share a dash. After two dashes alone, nothing is an option.
-/

namespace KeyboardLayout.Command

/-- An option of a command. -/
structure OptionName where
  letter : Option Char
  word : Text
  takesValue : Bool
  deriving DecidableEq, Repr

/-- An argument that has been understood. -/
inductive Argument
  | flag (word : Text)
  | option (word value : Text)
  | positional (value : Text)
  deriving DecidableEq, Repr

/-- The argument may be the value of an option: it does not look like an option itself. -/
def isValue (arg : Text) : Bool :=
  arg.head? != some '-' || arg == ['-']

/-- A word option, and whether it took the next argument as its value. -/
def wordOption? (options : List OptionName) (body : Text) (next : Option Text) :
    Option (Argument × Bool) := do
  let word := body.takeWhile (· != '=')
  let attached? := Text.after? ['='] (body.drop word.length)
  let option ← options.find? (·.word == word)
  match option.takesValue, attached? with
  | true, some value => return (.option word value, false)
  | true, none => (next.filter isValue).map fun value => (.option word value, true)
  | false, none => return (.flag word, false)
  | false, some _ => none

/-- Letter options that share a dash, and whether the last one took the next argument as its
value. -/
def letterOptions? (options : List OptionName) (next : Option Text) :
    Text → Option (List Argument × Bool)
  | [] => some ([], false)
  | c :: rest => do
    let option ← options.find? (·.letter == some c)
    if option.takesValue then
      match rest with
      | [] => (next.filter isValue).map fun value => ([.option option.word value], true)
      | '=' :: value => return ([.option option.word value], false)
      | value => return ([.option option.word value], false)
    else
      let (more, tookNext) ← letterOptions? options next rest
      return (.flag option.word :: more, tookNext)

/-- All arguments of a command. `passNext` tells that the first one has been taken as a value. -/
def arguments? (options : List OptionName) : (passNext : Bool) → List Text →
    Option (List Argument)
  | _, [] => some []
  | true, _ :: rest => arguments? options false rest
  | false, arg :: rest =>
    match arg with
    | ['-', '-'] => some (rest.map .positional)
    | '-' :: '-' :: body => do
      let (argument, tookNext) ← wordOption? options body rest.head?
      return argument :: (← arguments? options tookNext rest)
    | '-' :: c :: body => do
      let (found, tookNext) ← letterOptions? options rest.head? (c :: body)
      return found ++ (← arguments? options tookNext rest)
    | value => (arguments? options false rest).map (.positional value :: ·)

/-- The values of an option. -/
def valuesOf (word : String) (arguments : List Argument) : List Text :=
  arguments.filterMap fun argument => match argument with
    | .option w value => if w = word.toList then some value else none
    | _ => none

/-- The value of an option that is given at most once. -/
def valueOf? (word : String) (arguments : List Argument) : Option (Option Text) :=
  match valuesOf word arguments with
  | [] => some none
  | [value] => some (some value)
  | _ => none

/-- The arguments that are no options. -/
def positionals (arguments : List Argument) : List Text :=
  arguments.filterMap fun argument => match argument with
    | .positional value => some value
    | _ => none

def hasFlag (word : String) (arguments : List Argument) : Bool :=
  arguments.contains (.flag word.toList)

/-- A number as an argument; it may have a plus sign. -/
def number? (t : Text) : Option Nat :=
  (Text.natural? 10 ((Text.after? ['+'] t).getD t)).filter (· < Nat.pow 2 64)

/-- A path as an argument. -/
def path? (t : Text) : Option Path :=
  if t.isEmpty then none else some t

/-- The items of a list with commas. -/
def commaItems : Text → List Text
  | [] => [[]]
  | c :: rest =>
    if c = ',' then [] :: commaItems rest
    else
      match commaItems rest with
      | [] => [[c]]
      | item :: more => (c :: item) :: more

/-! ## Requests -/

/-- What the program is asked to do. -/
inductive Request
  | version
  | help
  | build (request : BuildRequest)
  | view (request : ViewRequest)
  deriving DecidableEq, Repr

/-- The options that every command has. -/
def commonOptions : List OptionName :=
  [⟨some 'v', "verbose".toList, false⟩, ⟨some 'h', "help".toList, false⟩]

def buildOptions : List OptionName :=
  [⟨some 'o', "out-dir".toList, true⟩, ⟨some 'c', "config".toList, true⟩] ++ commonOptions

def viewOptions : List OptionName :=
  [⟨some 'l', "layout".toList, true⟩, ⟨none, "level".toList, true⟩,
    ⟨none, "levels".toList, true⟩, ⟨none, "geometry".toList, true⟩] ++ commonOptions

def build? (args : List Text) : Option Request := do
  let arguments ← arguments? buildOptions false args
  if hasFlag "help" arguments then return .help
  let layouts ← (positionals arguments).mapM path?
  let directory ← (← valueOf? "out-dir" arguments).mapM path?
  let config ← (← valueOf? "config" arguments).mapM path?
  if layouts.isEmpty then none else return .build { layouts, directory, config }

def view? (args : List Text) : Option Request := do
  let arguments ← arguments? viewOptions false args
  if hasFlag "help" arguments then return .help
  let layout ← (← valueOf? "layout" arguments).bind path?
  let level ← (← valueOf? "level" arguments).mapM number?
  let levels ← ((valuesOf "levels" arguments).flatMap commaItems).mapM number?
  let geometry ← valueOf? "geometry" arguments
  match positionals arguments with
  | [name] =>
    let view ← View.ofName? name
    return .view {
      layout
      view
      level := level.getD 0
      levels := if levels.isEmpty then [0, 2] else levels
      geometry }
  | _ => none

/-- The letters behind a dash before the command: the first one that asks for something, or nothing
if all of them only make the program talk more. -/
def leadingLetters? : Text → Option (Option Request)
  | [] => some none
  | 'v' :: rest => leadingLetters? rest
  | 'V' :: _ => some (some .version)
  | 'h' :: _ => some (some .help)
  | _ => none

/-- The request of the arguments of the program, or nothing if they are not understood. -/
def Request.ofArguments? : List Text → Option Request
  | [] => none
  | arg :: rest =>
    if arg = "build".toList then build? rest
    else if arg = "view".toList then view? rest
    else if arg = "help".toList then some .help
    else if arg = "--version".toList then some .version
    else if arg = "--help".toList then some .help
    else if arg = "--verbose".toList then ofArguments? rest
    else
      match arg with
      | '-' :: c :: letters =>
        match leadingLetters? (c :: letters) with
        | none => none
        | some (some request) => some request
        | some none => ofArguments? rest
      | _ => none

/-- The name and the version of the program. -/
def versionLine : Text :=
  "kalamine 0.6.0".toList

/-- How the program is called. -/
def helpLines : List Text :=
  ["Usage: kalamine build [-o DIR] [-c FILE] FILE...".toList,
    "       kalamine view -l FILE [--level N] [--levels N,N] [--geometry NAME] VIEW".toList]

/-- Does what a request asks for. The user's configuration is in the directory `home`. -/
def Request.run {m : Type → Type} [Monad m] [Disk m] (request : Request) (home : Option Path) :
    m (Except Failure Unit) := do
  match request with
  | .version => do
    Disk.print versionLine
    return .ok ()
  | .help => do
    helpLines.forM Disk.print
    return .ok ()
  | .build request => request.run home
  | .view request => request.run

/-- Where the user's configuration is: a directory that replaces all others, the program's own one
among the user's, or that below the home directory. -/
def configDirectory (override xdg home : Option Path) : Option Path :=
  match override, xdg.filter Path.isAbsolute, home with
  | some path, _, _ => some path
  | none, some path, _ => some (Path.join path "kalamine".toList)
  | none, none, some path => some (Path.join path ".config/kalamine".toList)
  | none, none, none => none

end KeyboardLayout.Command
