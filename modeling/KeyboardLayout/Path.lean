import KeyboardLayout.Text.Basic

/-!
# Paths

The names of files: texts whose parts are separated by slashes. A path is shown as it was given, so
that it is kept as a text.
-/

namespace KeyboardLayout

/-- The name of a file or a directory. -/
abbrev Path := Text

namespace Path

/-- The path does not depend on the working directory. -/
def isAbsolute (path : Path) : Bool :=
  path.head? == some '/'

/-- The path of a name in a directory. An absolute name stands for itself. -/
def join (directory name : Path) : Path :=
  if isAbsolute name || directory.isEmpty then name
  else if directory.getLast? == some '/' then directory ++ name
  else directory ++ '/' :: name

/-- The parts of a path as they are written; there is always at least one. -/
def split : Path → List Text
  | [] => [[]]
  | c :: rest =>
    if c = '/' then [] :: split rest
    else
      match split rest with
      | [] => [[c]]
      | part :: more => (c :: part) :: more

/-- The part says nothing: it is empty or stands for the directory itself. -/
def isIdle (part : Text) : Bool :=
  part.isEmpty || part == ['.']

/-- The parts of a path that lead anywhere. -/
def parts (path : Path) : List Text :=
  (split path).filter fun part => !isIdle part

/-- The name of a file without what follows its last dot. A name that only starts with a dot is all
stem. -/
def stem (path : Path) : Text :=
  let name := (parts path).getLast?.getD []
  let before := (name.reverse.dropWhile (· != '.')).drop 1
  if before.isEmpty then name else before.reverse

/-- The paths of the directories that a path lies in, the outermost first. -/
def ancestors (path : Path) : List Path :=
  let names := (parts path).dropLast
  let start : Path := if isAbsolute path then ['/'] else []
  (List.range names.length).map fun n => start ++ Text.join ['/'] (names.take (n + 1))

/-- The path without slashes at its end, unless there is nothing else. -/
def trimSlashes (path : Path) : Path :=
  let trimmed := (path.reverse.dropWhile (· == '/')).reverse
  if trimmed.isEmpty then path else trimmed

end Path

end KeyboardLayout
