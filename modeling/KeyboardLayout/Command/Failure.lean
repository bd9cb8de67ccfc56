import KeyboardLayout.Config
import KeyboardLayout.Layout.Basic

/-!
# Failures of commands

Why a command stops. A failure is the user's or the disk's, and the exit code tells which.
-/

namespace KeyboardLayout.Command

/-- Why a command stops. -/
inductive Failure
  | layoutNotFound (path : Path)
  | layoutUnreadable (path : Path) (e : ReadError)
  | layoutInvalid (path : Path) (e : LayoutError)
  | configNotFound (path : Path)
  /-- There is no directory for the user's configuration. -/
  | noConfigDirectory
  | config (e : ConfigError)
  | preview (e : Config.UnknownPreview)
  | outputDirectory (path : Path) (e : SystemError)
  | render (driver : Driver) (e : LayoutError)
  | write (path : Path) (e : SystemError)
  /-- No pair of levels starts with that level. -/
  | invalidLevel (index : Nat)
  | view (e : LayoutError)
  deriving DecidableEq, Repr

namespace Failure

/-- The disk failed, and not the input. -/
def isDisk : Failure → Bool
  | layoutNotFound _ | configNotFound _ | outputDirectory _ _ | write _ _ => true
  | _ => false

/-- The exit code of a command that failed. -/
def exitCode (failure : Failure) : Nat :=
  if failure.isDisk then 2 else 1

def message : Failure → Text
  | layoutNotFound path => "Layout file not found: ".toList ++ path
  | layoutUnreadable path e =>
    "Failed to read layout file: ".toList ++ path ++ ": ".toList ++ e.message
  | layoutInvalid path e =>
    "Failed to parse layout file: ".toList ++ path ++ ": ".toList ++ e.message
  | configNotFound path => "Config file not found: ".toList ++ path
  | noConfigDirectory =>
    "Failed to load configuration: Failed to determine config directory".toList
  | config e => "Failed to load configuration: ".toList ++ e.report
  | preview e => e.message
  | outputDirectory path e =>
    "Failed to create output directory ".toList ++ path ++ ": ".toList ++ e.message
  | render driver e =>
    "Failed to render ".toList ++ driver.extension ++ " driver: ".toList ++ e.message
  | write path e => "Failed to write ".toList ++ path ++ ": ".toList ++ e.message
  | invalidLevel index =>
    "Invalid level ".toList ++ Text.decimal index ++ " (expected 0, 2 or 4)".toList
  | view e => e.message

end Failure

end KeyboardLayout.Command
