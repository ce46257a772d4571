import BaudSwitch.Dialogue
import BaudSwitch.FileTree
import BaudSwitch.Text.Utf8

/-!
# Machines

What the program needs from its surroundings: files, two streams to print on, and a port to talk
to.  A `World` is a machine that is nothing but a value, so that a run of the program can be
looked at as a whole.
-/

namespace BaudSwitch

class Machine (m : Type → Type) where
  contains : FilePath → m Bool
  read : FilePath → m (Except FileError Bytes)
  /-- Write a file, with the directories on the way to it. -/
  save : FilePath → Bytes → m (Except FileError Unit)
  /-- Where the user's settings are kept. -/
  settingsDirectory : m (Option FilePath)
  print : String → m Unit
  complain : String → m Unit
  /-- Hold a dialogue with the port, and print what the journal shows at a level. -/
  converse : {Value : Type} → Level → Dialogue Value → m Value

/-- A machine as a value. -/
structure World (Port : Type) where
  files : FileTree := {}
  port : Port
  settingsDirectory : Option FilePath := none
  output : String := ""
  complaints : String := ""
  transcript : Transcript := []

namespace World

variable {Port : Type} [Answering Port]

def journalText (notices : List Notice) : String :=
  String.join (notices.map fun notice => notice.line ++ "\n")

instance : Machine (StateM (World Port)) where
  contains path := do return (← get).files.contains path
  read path := do return (← get).files.read path
  save path content := fun world =>
    let (files, result) := world.files.save path content
    (result, { world with files })
  settingsDirectory := do return (← get).settingsDirectory
  print text := modify fun world => { world with output := world.output ++ text }
  complain text := modify fun world => { world with complaints := world.complaints ++ text }
  converse kept dialogue := fun world =>
    let run := dialogue.run world.port
    (run.value,
      { world with
        port := run.port
        output := world.output ++ journalText (run.transcript.journal kept)
        transcript := world.transcript ++ run.transcript })

end World

/-- Where settings are kept: below a directory of their own if its path is absolute, else below
the user's home. -/
def settingsDirectory? (own home : Option FilePath) : Option FilePath :=
  match own.filter FilePath.isAbsolute with
  | some directory => some directory
  | none => (home.filter (· ≠ [])).map fun home => FilePath.below home (Bytes.ascii ".config")

/-- Why a path cannot be opened as a port; none if it leads to a terminal. -/
def FileTree.refusal? (tree : FileTree) (port : String) : Option String :=
  match tree.find (Utf8.encode port) with
  | .ok .terminal => none
  | .ok .directory => some "Is a directory"
  | .ok _ => some "Not a typewriter"
  | .error .notFound => some "No such file or directory"
  | .error .notADirectory => some "Not a directory"
  | .error .nameTooLong => some "File name too long"
  | .error .invalidPath => some "Invalid argument"
  | .error cause => some cause.message

end BaudSwitch
