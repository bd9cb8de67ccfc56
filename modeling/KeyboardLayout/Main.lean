import KeyboardLayout.Command.Line

/-!
# The program

Runs the commands on the file system.
-/

namespace KeyboardLayout

/-- What the operating system refuses, by the number of the error. Some operations report the
number with its sign changed. -/
def SystemError.ofNumber (code : UInt32) (text : String) : SystemError :=
  match min code.toNat (-code).toNat with
  | 2 => .notFound
  | 13 => .permissionDenied
  | 17 => .exists
  | 20 => .notDirectory
  | 21 => .isDirectory
  | 36 => .nameTooLong
  | number => .other text.toList number

/-- The refusal behind an error of the file system. -/
def SystemError.ofError (e : IO.Error) : SystemError :=
  match e with
  | .alreadyExists _ code text => .ofNumber code text
  | .noFileOrDirectory _ code text => .ofNumber code text
  | .inappropriateType _ code text => .ofNumber code text
  | .permissionDenied _ code text => .ofNumber code text
  | .invalidArgument _ code text => .ofNumber code text
  | .resourceExhausted _ code text => .ofNumber code text
  | .otherError code text => .ofNumber code text
  | e => .other (toString e).toList 0

/-- Tries an operation on the file system. -/
def attempt {α : Type} (operation : IO α) : IO (Except SystemError α) := do
  try
    return .ok (← operation)
  catch e =>
    return .error (.ofError e)

/-- The path leads somewhere, whether or not what lies there may be read. -/
def isFound (path : Path) : IO Bool :=
  return (← attempt (IO.FS.realPath (String.ofList path))).isOk

/-- What lies there is a directory: as such it is not opened for writing, whatever its
permissions. -/
def isFolder (path : Path) : IO Bool := do
  match ← attempt (IO.FS.Handle.mk (String.ofList path) .readWrite) with
  | .error .isDirectory => return true
  | _ => return false

instance : Disk IO where
  isFile path := do
    if ← isFound path then return !(← isFolder path) else return false
  isDirectory := isFolder
  isThere := isFound
  read path := do
    match ← attempt (IO.FS.readBinFile (String.ofList path)) with
    | .error e => return .error (.system e)
    | .ok data =>
      match String.fromUTF8? data with
      | some t => return .ok t.toList
      | none => return .error .encoding
  makeDirectory path := attempt (IO.FS.createDir (String.ofList path))
  write path data :=
    attempt (IO.FS.writeBinFile (String.ofList path) (ByteArray.mk data.toArray))
  print line := IO.println (String.ofList line)

def environmentPath (name : String) : IO (Option Path) := do
  return (← IO.getEnv name).map String.toList

end KeyboardLayout

open KeyboardLayout in
/-- Runs the command that the arguments name; the exit code tells what kind of failure ended it. -/
def main (args : List String) : IO UInt32 := do
  match Command.Request.ofArguments? (args.map String.toList) with
  | none =>
    Command.helpLines.forM fun line => IO.eprintln (String.ofList line)
    return 2
  | some request =>
    let home := Command.configDirectory (← environmentPath "KALAMINE_CONFIG_DIR")
      (← environmentPath "XDG_CONFIG_HOME") (← environmentPath "HOME")
    match ← request.run home with
    | .ok _ => return 0
    | .error failure =>
      IO.eprintln ("Error: " ++ String.ofList failure.message)
      return failure.exitCode.toUInt32
