import KeyboardLayout.Path

/-!
# Disks

What a command needs of the outer world: a few operations on files and the printing of lines. The
commands are written for any monad that has them, so that they run on the file system and on a
`World` alike.
-/

namespace KeyboardLayout

/-- What the operating system refuses. -/
inductive SystemError
  | notFound
  | permissionDenied
  | exists
  | notDirectory
  | isDirectory
  | nameTooLong
  /-- A path with a null character names nothing. -/
  | nullInName
  /-- Any other error: its text and its number. -/
  | other (text : Text) (number : Nat)
  deriving DecidableEq, Repr

namespace SystemError

/-- An error text with the error's number. -/
def numbered (text : Text) (number : Nat) : Text :=
  text ++ " (os error ".toList ++ Text.decimal number ++ ")".toList

def message : SystemError → Text
  | notFound => numbered "No such file or directory".toList 2
  | permissionDenied => numbered "Permission denied".toList 13
  | «exists» => numbered "File exists".toList 17
  | notDirectory => numbered "Not a directory".toList 20
  | isDirectory => numbered "Is a directory".toList 21
  | nameTooLong => numbered "File name too long".toList 36
  | nullInName => "file name contained an unexpected NUL byte".toList
  | other text number => numbered text number

end SystemError

/-- Why a text cannot be read from a file. -/
inductive ReadError
  | system (e : SystemError)
  /-- The file does not hold UTF-8. -/
  | encoding
  deriving DecidableEq, Repr

def ReadError.message : ReadError → Text
  | system e => e.message
  | encoding => "stream did not contain valid UTF-8".toList

/-- The operations of a disk. -/
class Disk (m : Type → Type) where
  isFile : Path → m Bool
  isDirectory : Path → m Bool
  isThere : Path → m Bool
  read : Path → m (Except ReadError Text)
  /-- Makes a directory in one that is there. -/
  makeDirectory : Path → m (Except SystemError Unit)
  /-- Writes a file, in place of what it held. -/
  write : Path → List UInt8 → m (Except SystemError Unit)
  print : Text → m Unit

namespace Disk

variable {m : Type → Type} [Monad m] [Disk m]

/-- A refusal to make a directory counts only if the directory is not there. -/
def orThere (path : Path) (e : SystemError) : m (Except SystemError Unit) := do
  if ← isDirectory path then return .ok () else return .error e

/-- Makes directories one after the other, up to the first one that cannot be made. -/
def ensureAll : List Path → m (Except SystemError Unit)
  | [] => return .ok ()
  | path :: rest => do
    match ← makeDirectory path with
    | .ok _ => ensureAll rest
    | .error e =>
      match ← orThere path e with
      | .ok _ => ensureAll rest
      | .error e => return .error e

/-- Makes a directory and those that it lies in. -/
def createDirectories (path : Path) : m (Except SystemError Unit) := do
  if path.isEmpty then return .ok ()
  match ← makeDirectory path with
  | .ok _ => return .ok ()
  | .error .notFound => ensureAll (Path.ancestors path ++ [path])
  | .error e => orThere path e

end Disk

end KeyboardLayout
