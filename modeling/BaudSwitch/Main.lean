import BaudSwitch.Program

/-!
# The command

The program on a real machine.  A port is a device file that is a terminal; its line discipline,
and so how long a read waits for octets, is as the operating system has it.
-/

namespace BaudSwitch.Main

/-- The failure that the operating system reported. -/
def fileError (cause : IO.Error) : FileError :=
  match cause with
  | .noFileOrDirectory .. => .notFound
  | .alreadyExists .. => .alreadyExists
  | .inappropriateType _ 20 _ => .notADirectory
  | .inappropriateType _ 21 _ => .isADirectory
  | .inappropriateType .. => .isADirectory
  | other => .other (toString other)

/-- What an action brought, or how it failed. -/
def attempt {Value : Type} (action : IO Value) : IO (Except FileError Value) := do
  try
    return .ok (← action)
  catch cause =>
    return .error (fileError cause)

structure Device where
  name : String
  handle : IO.FS.Handle

def reason : FileError → String
  | .notFound => "No such file or directory"
  | .notADirectory => "Not a directory"
  | .isADirectory => "Is a directory"
  | cause => cause.message

def answer (device : IO.Ref (Option Device)) (tell : Notice → IO Unit) : Call → IO Answer
  | .connect port baud _ => do
      match ← attempt (IO.FS.Handle.mk port .readWrite) with
      | .error cause => return .error (.cannotOpen port (reason cause))
      | .ok handle =>
          if ← handle.isTty then
            device.set (some ⟨port, handle⟩)
            tell (.opened port baud)
            return .ok []
          else
            return .error (.cannotOpen port "Not a typewriter")
  | .write bytes => onDevice fun held => do
      held.handle.write ⟨bytes.toArray⟩
      held.handle.flush
      return []
  | .read limit => onDevice fun held => do
      return (← held.handle.read limit.toUSize).toList
  | .close => do
      let result ← onDevice fun held => do
        held.handle.flush
        tell (.closed held.name)
        return []
      device.set none
      return result
where
  onDevice (use : Device → IO Bytes) : IO Answer := do
    match ← device.get with
    | none => return .ok []
    | some held =>
        match ← attempt (use held) with
        | .ok bytes => return .ok bytes
        | .error cause => return .error (.io cause.message)

def hold {Value : Type} (device : IO.Ref (Option Device)) (tell : Notice → IO Unit) :
    Dialogue Value → IO Value
  | .done value => return value
  | .note notice next => do
      tell notice
      hold device tell next
  | .pause milliseconds next => do
      IO.sleep milliseconds.toUInt32
      hold device tell next
  | .call request next => do
      let result ← answer device tell request
      hold device tell (next result)

/-- A path as the operating system takes it. -/
def name (path : FilePath) : String :=
  Utf8.decodeLossy path

instance : Machine IO where
  contains path := do
    match ← attempt (IO.FS.Handle.mk (name path) .read) with
    | .ok _ => return true
    | .error (.other _) => return true
    | .error _ => return false
  read path := attempt do
    return (← IO.FS.readBinFile (name path)).toList
  save path content := attempt do
    match path.parent? with
    | none | some [] => pure ()
    | some parent => IO.FS.createDirAll (name parent)
    IO.FS.writeBinFile (name path) ⟨content.toArray⟩
  settingsDirectory := do
    let own ← IO.getEnv "XDG_CONFIG_HOME"
    let home ← IO.getEnv "HOME"
    return settingsDirectory? (own.map Utf8.encode) (home.map Utf8.encode)
  print text := do
    IO.print text
    (← IO.getStdout).flush
  complain text := IO.eprint text
  converse kept dialogue := do
    let device ← IO.mkRef none
    let tell (notice : Notice) : IO Unit := do
      if kept.shows notice.level then IO.println notice.line
    hold device tell dialogue

end BaudSwitch.Main

def main (arguments : List String) : IO UInt32 :=
  BaudSwitch.Program.run (BaudSwitch.Bytes.ascii "gdb-baud" :: arguments.map BaudSwitch.Utf8.encode)
