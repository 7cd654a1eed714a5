import Scanout.Config.Schema
import Scanout.Log.Record
import Scanout.Machine.Question

/-!
# Loading the configuration

The configuration is in the file that an environment variable names.  Without the variable, or if
the file gives no configuration, the default is used, and a record tells why.  A program reads its
configuration once and keeps it.

## Main definitions

* `Config.Environment` — the variable and the files
* `Config.load` — the configuration in a file, or why there is none
* `Config.fromEnvironment` — the configuration that is used, and the records of loading it
* `Config.Global` — the configuration of a program, fixed by its first read
-/

namespace Scanout.Config

open Json (Fault)

/-- The environment variable that names the file. -/
def variableName : String := "KMS_CONTEXT_CONFIG"

/-- What reading a file gives: its bytes, or why it cannot be read. -/
abbrev Contents := Except OsError (List UInt8)

/-- **What a configuration is loaded from.** -/
structure Environment where
  /-- The file that the variable names, if it is set. -/
  file? : Option Path
  /-- What reading a file gives. -/
  contents : Path → Contents

/-- **Why a file gives no configuration.** -/
inductive LoadError where
  | unreadable (name : Path) (cause : OsError)
  /-- The bytes of the file are not text. -/
  | notText (name : Path)
  | malformed (name : Path) (fault : Fault)
  deriving DecidableEq, Repr

namespace LoadError

/-- The wording of an error, the cause last. -/
def message : LoadError → String
  | unreadable name cause => "Failed to read config file " ++ name.shown ++ ": " ++ cause.fileMessage
  | notText name =>
      "Failed to read config file " ++ name.shown ++ ": stream did not contain valid UTF-8"
  | malformed name fault => "Failed to parse config file " ++ name.shown ++ ": " ++ fault.message

/-- The fault of the text, if the error is one of the text. -/
def fault? : LoadError → Option Fault
  | unreadable _ _ | notText _ => none
  | malformed _ fault => some fault

end LoadError

/-- **The configuration in a file**, or why there is none. -/
def load (contents : Path → Contents) (name : Path) : Except LoadError Config :=
  match contents name with
  | .error cause => .error (.unreadable name cause)
  | .ok bytes =>
      match String.fromUTF8? ⟨bytes.toArray⟩ with
      | none => .error (.notText name)
      | some text =>
          match codec.parse text with
          | .error fault => .error (.malformed name fault)
          | .ok config => .ok config

/-- **The configuration that is used**, and the records of loading it. -/
def fromEnvironment (environment : Environment) : Config × List Log.Record :=
  match environment.file? with
  | none => (default, [])
  | some name =>
      match load environment.contents name with
      | .ok config =>
          (config, [⟨.info, .configuration, "Configuration loaded from " ++ name.shown⟩])
      | .error error =>
          (default,
            [⟨.warn, .configuration, error.message ++ ". Using default configuration."⟩])

/-- **The configuration of a program**, once it has been read. -/
structure Global where
  value? : Option Config

namespace Global

/-- A configuration that has not been read yet. -/
def unread : Global := ⟨none⟩

/-- **Reads the configuration.**  Only the first read looks at the environment and writes records. -/
def read (g : Global) (environment : Environment) : (Config × List Log.Record) × Global :=
  match g.value? with
  | some config => ((config, []), g)
  | none =>
      let (config, records) := fromEnvironment environment
      ((config, records), ⟨some config⟩)

end Global

end Scanout.Config
