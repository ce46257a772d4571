import BaudSwitch.Machine
import BaudSwitch.Settings.Document

/-!
# Settings in files

Settings are read from a named file, or from the first of the usual places that there is, and
written to any file.
-/

namespace BaudSwitch.Settings

inductive StorageError where
  | missing (path : FilePath)
  | file (cause : FileError)
  | malformed
  | unwritable
  deriving DecidableEq, Repr

def StorageError.message : StorageError → String
  | .missing path => "Config file not found: " ++ Utf8.decodeLossy path
  | .file cause => "IO error: " ++ cause.message
  | .malformed => "Parse error: not a settings document"
  | .unwritable => "Serialize error: out-of-range value"

/-- The settings that the content of a file gives. -/
def ofContent (content : Bytes) : Except StorageError Settings :=
  match Utf8.decode? content with
  | none => .error (.file .invalidText)
  | some text =>
      match parse? text with
      | none => .error .malformed
      | some settings => .ok settings

/-- The file that holds settings below the user's settings directory. -/
def userFile : FilePath := Bytes.ascii "gdb-baud/config.toml"

/-- The file that holds settings in the working directory. -/
def localFile : FilePath := Bytes.ascii "./gdb-baud.toml"

variable {m : Type → Type} [Monad m] [Machine m]

def load (path : FilePath) : m (Except StorageError Settings) := do
  if ← Machine.contains path then
    match ← Machine.read path with
    | .ok content => return ofContent content
    | .error cause => return .error (.file cause)
  else
    return .error (.missing path)

/-- Read settings from the first file that there is; the built-in ones if there is none. -/
def loadFirst : List FilePath → m (Except StorageError Settings)
  | [] => return .ok {}
  | path :: others => do
      if ← Machine.contains path then load path else loadFirst others

/-- Read settings from the usual places. -/
def loadDefault : m (Except StorageError Settings) := do
  let directory ← Machine.settingsDirectory
  loadFirst ((directory.map fun above => FilePath.below above userFile).toList ++ [localFile])

/-- Write settings to a file. Settings that no document can give touch nothing. -/
def save (settings : Settings) (path : FilePath) : m (Except StorageError Unit) := do
  match settings.print? with
  | none => return .error .unwritable
  | some text =>
      match ← Machine.save path (Utf8.encode text) with
      | .ok () => return .ok ()
      | .error cause => return .error (.file cause)

end BaudSwitch.Settings
