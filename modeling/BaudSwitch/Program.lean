import BaudSwitch.CommandLine.Lenient
import BaudSwitch.Handshake
import BaudSwitch.Settings.Storage

/-!
# The program

Read the command line, find the settings, lay the command line over them and check them; then
print them, write them to a file, or run the handshake and tell how it ended.
-/

namespace BaudSwitch.Program

open CommandLine (Request)

inductive Failure where
  | commandLine (cause : CommandLine.Error)
  | load (path : FilePath) (cause : Settings.StorageError)
  | invalid (defect : Defect)
  | save (cause : Settings.StorageError)
  | handshake (cause : HandshakeError)
  deriving DecidableEq, Repr

def Failure.message : Failure → String
  | .commandLine _ => "Invalid command line"
  | .load path _ => "Failed to load " ++ Utf8.decodeLossy path
  | .invalid defect => defect.message
  | .save cause => cause.message
  | .handshake cause => cause.message

def helpLines : List String :=
  [ "Switch a remote GDB serial link to a higher baud rate",
    "",
    "Usage: gdb-baud [OPTIONS]",
    "",
    "Options:",
    "  -v                         Echo every frame sent and received",
    "  -b <RATE>                  New baud rate [default: 921600]",
    "  -c <PORT>                  Serial port [default: COM7 on Windows, /dev/ttyUSB0 elsewhere]",
    "      --config <PATH>        Path to configuration file",
    "      --strict               Drop replies whose checksum does not match",
    "      --print-config         Print the effective configuration and exit",
    "      --write-config <PATH>  Write the effective configuration to a file and exit",
    "      --help                 Print help" ]

def help : String :=
  String.join (helpLines.map (· ++ "\n"))

def verdict (outcome : Outcome) (baud : UInt32) : String :=
  match outcome with
  | .confirmed => s!"Target system responding OK at {baud.toNat} baud\n"
  | .noResponse => s!"No response from target system at {baud.toNat} baud\n"

/-- The whole handshake, and a last word of the journal on what it did. -/
def handshake (settings : Settings) : Dialogue (Except HandshakeError Report) := do
  let (result, _) ← Handshake.run { settings }
  match result with
  | .error cause => return .error cause
  | .ok report =>
      match report.speedChangeSent, report.divider with
      | true, some divider => Dialogue.tell (.dividerSet divider)
      | _, _ => Dialogue.tell (.rateKept settings.line.initialBaud)
      Dialogue.tell (.totals report.traffic)
      return .ok report

def journalLevel (settings : Settings) : Level :=
  if settings.verbose then .debug else .info

variable {m : Type → Type} [Monad m] [Machine m]

/-- The settings that the command line is laid over. The file that it names must be readable;
a file in one of the usual places that is not readable does not count. -/
def baseSettings (request : Request) : ExceptT Failure m Settings := do
  match request.settingsFile with
  | some path =>
      match ← (Settings.load path : m _) with
      | .ok settings => return settings
      | .error cause => throw (.load path cause)
  | none =>
      match ← (Settings.loadDefault : m _) with
      | .ok settings => return settings
      | .error _ => return {}

def perform (request : Request) : ExceptT Failure m Unit := do
  let settings := request.apply (← baseSettings request)
  match settings.defect? with
  | some defect => throw (.invalid defect)
  | none => pure ()
  if request.printSettings then
    match settings.print? with
    | some text => (Machine.print (text ++ "\n") : m Unit)
    | none => throw (.save .unwritable)
  else
    match request.writeTo with
    | some path =>
        match ← (settings.save path : m _) with
        | .ok () =>
            (Machine.print ("Configuration written to: " ++ Utf8.decodeLossy path ++ "\n") : m Unit)
        | .error cause => throw (.save cause)
    | none =>
        match ← (Machine.converse (journalLevel settings) (handshake settings) : m _) with
        | .ok report =>
            (Machine.print (verdict report.outcome settings.line.targetBaud) : m Unit)
        | .error cause => throw (.handshake cause)

/-- Run the program on its arguments, its name first, and hand over the exit status. -/
def run (arguments : List Bytes) : m UInt32 := do
  match CommandLine.parseLenient arguments with
  | .error .helpRequested =>
      Machine.print help
      return 0
  | .error cause =>
      Machine.complain ("Error: " ++ (Failure.commandLine cause).message ++ "\n")
      return 1
  | .ok request =>
      match ← (perform request).run with
      | .ok () => return 0
      | .error failure =>
          Machine.complain ("Error: " ++ failure.message ++ "\n")
          return 1

end BaudSwitch.Program
