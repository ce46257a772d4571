import BaudSwitch.Program
import BaudSwitch.Proofs.Settings.Storage

/-!
# Where the settings of a run come from

A run that is told a settings file stops if the file gives no settings, and nothing is touched
then.  A run that is told none looks at the usual places, and takes the built-in settings also
where the first file that there is gives none.
-/

namespace BaudSwitch

namespace World

variable {Port : Type}

/-- The world with more on its first stream. -/
def printing (world : World Port) (text : String) : World Port :=
  { world with output := world.output ++ text }

/-- The world with a failure told on its second stream. -/
def complaining (world : World Port) (failure : Program.Failure) : World Port :=
  { world with complaints := world.complaints ++ ("Error: " ++ failure.message ++ "\n") }

end World

namespace Settings

variable {Port : Type} [Answering Port]

/-- The settings in the first file that there is, the built-in ones if there is none. -/
def inFirst (tree : FileTree) (paths : List FilePath) : Except StorageError Settings :=
  match paths.find? tree.contains with
  | none => .ok {}
  | some path => inTree tree path

theorem run_loadFirst (paths : List FilePath) (world : World Port) :
    (loadFirst paths : StateM (World Port) _).run world = (inFirst world.files paths, world) := by
  induction paths with
  | nil => rfl
  | cons path paths inductionHypothesis =>
      rw [loadFirst, StateT.run_bind, World.run_contains, inFirst]
      cases there : world.files.contains path with
      | false =>
          rw [List.find?_cons_of_neg (by simp [there])]
          exact inductionHypothesis
      | true =>
          rw [List.find?_cons_of_pos there]
          exact run_load path world

/-- The places where a run that is not told a settings file looks for one. -/
def usualPlaces (world : World Port) : List FilePath :=
  (world.settingsDirectory.map fun above => FilePath.below above userFile).toList ++ [localFile]

theorem run_loadDefault (world : World Port) :
    (loadDefault : StateM (World Port) _).run world =
      (inFirst world.files (usualPlaces world), world) :=
  run_loadFirst (usualPlaces world) world

end Settings

namespace Program

open CommandLine (Request)

variable {Port : Type} [Answering Port] {arguments : List Bytes} {request : Request}

/-- Work on a world that can fail. -/
abbrev Attempt (Port : Type) := ExceptT Failure (StateM (World Port))

/-- The settings that the command line is laid over in a world. -/
def base (request : Request) (world : World Port) : Except Failure Settings :=
  match request.settingsFile with
  | some path => (Settings.inTree world.files path).mapError (.load path)
  | none => .ok ((Settings.inFirst world.files (Settings.usualPlaces world)).toOption.getD {})

omit [Answering Port] in
/-- Work that cannot fail is done first, and the rest goes on with what it brings. -/
theorem run_lift_bind {First Second : Type} (first : StateM (World Port) First)
    (andThen : First → Attempt Port Second) (world : World Port) :
    (liftM first >>= andThen).run.run world =
      (andThen (first.run world).1).run.run (first.run world).2 := rfl

theorem run_baseSettings (request : Request) (world : World Port) :
    (baseSettings request : Attempt Port Settings).run.run world =
      (base request world, world) := by
  unfold baseSettings base
  cases request.settingsFile with
  | some path =>
      dsimp only
      rw [run_lift_bind, Settings.run_load]
      cases Settings.inTree world.files path <;> rfl
  | none =>
      dsimp only
      rw [run_lift_bind, Settings.run_loadDefault]
      cases Settings.inFirst world.files (Settings.usualPlaces world) <;> rfl

variable {m : Type → Type} [Monad m] [Machine m]

/-- What a request comes to once there are settings to lay it over. -/
def carryOut (request : Request) (settings : Settings) : ExceptT Failure m Unit := do
  match settings.defect? with
  | some defect => throw (.invalid defect)
  | none => pure ()
  if request.printSettings then
    match settings.print? with
    | some text => (Machine.print (text ++ "\n") : m Unit)
    | none => throw (.save .unwritable)
  else
    match request.writeTo with
    | some path =>
        match ← (settings.save path : m _) with
        | .ok () =>
            (Machine.print ("Configuration written to: " ++ Utf8.decodeLossy path ++ "\n") : m Unit)
        | .error cause => throw (.save cause)
    | none =>
        match ← (Machine.converse (journalLevel settings) (handshake settings) : m _) with
        | .ok report =>
            (Machine.print (verdict report.outcome settings.line.targetBaud) : m Unit)
        | .error cause => throw (.handshake cause)

theorem perform_eq (request : Request) : (perform request : ExceptT Failure m Unit) =
    baseSettings request >>= fun base => carryOut request (request.apply base) := rfl

/-- The exit status of work that is done, and its failure told. -/
def conclude (work : ExceptT Failure m Unit) : m UInt32 := do
  match ← work.run with
  | .ok () => return 0
  | .error failure =>
      Machine.complain ("Error: " ++ failure.message ++ "\n")
      return 1

theorem run_of_parsed (parsed : CommandLine.parseLenient arguments = .ok request) :
    (run arguments : m UInt32) = conclude (perform request) := by
  rw [run, parsed]
  rfl

/-- The exit status after an attempt, and the world with its failure told. -/
def exit : Except Failure Unit × World Port → UInt32 × World Port
  | (.ok (), after) => (0, after)
  | (.error failure, after) => (1, after.complaining failure)

theorem run_conclude (work : Attempt Port Unit) (world : World Port) :
    (conclude work).run world = exit (work.run.run world) := by
  rw [conclude, StateT.run_bind]
  rcases work.run.run world with ⟨_ | _, after⟩ <;> rfl

theorem run_perform_of_error {failure : Failure} {world : World Port}
    (failed : base request world = .error failure) :
    (perform request : Attempt Port Unit).run.run world = (.error failure, world) := by
  have loads := run_baseSettings request world
  rw [failed] at loads
  rw [perform_eq, ExceptT.run_bind, StateT.run_bind, loads]
  rfl

theorem run_perform_of_ok {settings : Settings} {world : World Port}
    (found : base request world = .ok settings) :
    (perform request : Attempt Port Unit).run.run world =
      (carryOut request (request.apply settings) : Attempt Port Unit).run.run world := by
  have loads := run_baseSettings request world
  rw [found] at loads
  rw [perform_eq, ExceptT.run_bind, StateT.run_bind, loads]
  rfl

/-- A settings file that the command line names must give settings, or the run stops and touches
nothing.  Where it names none and the first file in the usual places gives none, the run goes on
with the built-in settings. -/
theorem run_of_bad_settings_file (parsed : CommandLine.parseLenient arguments = .ok request)
    (world : World Port) :
    (∀ path cause, request.settingsFile = some path →
      ((Settings.load path : StateM (World Port) _).run world).1 = .error cause →
      (run arguments : StateM (World Port) _).run world =
        (1, world.complaining (.load path cause))) ∧
    (∀ path cause, request.settingsFile = none →
      (Settings.usualPlaces world).find? world.files.contains = some path →
      ((Settings.load path : StateM (World Port) _).run world).1 = .error cause →
      (run arguments : StateM (World Port) _).run world =
        (conclude (carryOut request (request.apply {})) : StateM (World Port) _).run world) := by
  rw [run_of_parsed parsed]
  constructor
  · intro path cause named failed
    rw [Settings.run_load] at failed
    have refused : base request world = .error (.load path cause) := by
      rw [base, named]
      dsimp only at failed ⊢
      rw [failed]
      rfl
    rw [run_conclude, run_perform_of_error refused, exit]
  · intro path cause unnamed there failed
    rw [Settings.run_load] at failed
    have fallsBack : base request world = .ok {} := by
      rw [base, unnamed, Settings.inFirst, there]
      dsimp only at failed ⊢
      rw [failed]
      rfl
    rw [run_conclude, run_conclude, run_perform_of_ok fallsBack]

/-- The named file is no document, and the run was to write one; and nothing is named, where the
file in the working directory is no document. -/
theorem run_of_bad_settings_file_malformed :
    let arguments :=
      ["gdb-baud", "--config", "bad.toml", "--write-config", "out.toml"].map Bytes.ascii
    let request : Request :=
      { settingsFile := some (Bytes.ascii "bad.toml"), writeTo := some (Bytes.ascii "out.toml") }
    let unnamed : Request := { printSettings := true }
    let world : World Script :=
      { files :=
          { nodes :=
              [([Bytes.ascii "bad.toml"], .file (Bytes.ascii "port =")),
                ([Bytes.ascii "gdb-baud.toml"], .file (Bytes.ascii "bad"))] }
        port := { replies := [] } }
    CommandLine.parseLenient arguments = .ok request ∧
      ((Settings.load (Bytes.ascii "bad.toml") : StateM (World Script) _).run world).1 =
        .error .malformed ∧
      (run arguments : StateM (World Script) _).run world =
        (1, world.complaining (.load (Bytes.ascii "bad.toml") .malformed)) ∧
      (Settings.usualPlaces world).find? world.files.contains = some Settings.localFile ∧
      (run (["gdb-baud", "--print-config"].map Bytes.ascii) : StateM (World Script) _).run world =
        (conclude (carryOut unnamed (unnamed.apply {})) : StateM (World Script) _).run world := by
  intro arguments request unnamed world
  have parsed : CommandLine.parseLenient arguments = .ok request := by decide +kernel
  have failed : ((Settings.load (Bytes.ascii "bad.toml") : StateM (World Script) _).run world).1 =
      .error .malformed := by decide +kernel
  have parsedUnnamed : CommandLine.parseLenient (["gdb-baud", "--print-config"].map Bytes.ascii) =
      .ok unnamed := by decide +kernel
  have there : (Settings.usualPlaces world).find? world.files.contains =
      some Settings.localFile := by decide +kernel
  have failedUnnamed : ((Settings.load Settings.localFile : StateM (World Script) _).run world).1 =
      .error .malformed := by decide +kernel
  have stopped := (run_of_bad_settings_file parsed world).1 _ _ rfl failed
  have passedOver := (run_of_bad_settings_file parsedUnnamed world).2 _ _ rfl there failedUnnamed
  exact ⟨parsed, failed, stopped, there, passedOver⟩

/-- The file in the working directory is no document, and yet the run succeeds and prints the
built-in settings. -/
theorem bad_local_file_passed_over :
    let arguments := ["gdb-baud", "--print-config"].map Bytes.ascii
    let world : World Script :=
      { files := { nodes := [([Bytes.ascii "gdb-baud.toml"], .file (Bytes.ascii "bad"))] }
        port := { replies := [] } }
    let ended := (run arguments : StateM (World Script) _).run world
    (CommandLine.parseLenient arguments).map Request.settingsFile = .ok none ∧
      (Settings.usualPlaces world).find? world.files.contains = some Settings.localFile ∧
      ((Settings.load Settings.localFile : StateM (World Script) _).run world).1 =
        .error .malformed ∧
      ended.1 = 0 ∧ ended.2.complaints = "" ∧
      (({} : Settings).print?.map (· ++ "\n")) = some ended.2.output := by
  decide +kernel

end Program

end BaudSwitch
