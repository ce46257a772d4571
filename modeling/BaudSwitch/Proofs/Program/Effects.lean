import BaudSwitch.Proofs.Handshake.Openings
import BaudSwitch.Proofs.Program.Loading

/-!
# What a run may touch

A run touches the port, a file or its first stream only with settings that it can work with, and
only what its command line asks for: printing touches neither the port nor a file, writing
touches one file and the directories above it, and a handshake touches no file and opens only the
port of the settings.
-/

namespace BaudSwitch

namespace World

variable {Port : Type}

/-- A world whose files and port are as they were, and no call was made. -/
structure Untouched (world after : World Port) : Prop where
  files : after.files = world.files
  port : after.port = world.port
  transcript : after.transcript = world.transcript

theorem untouched_complaining (world : World Port) (failure : Program.Failure) :
    world.Untouched (world.complaining failure) :=
  ⟨rfl, rfl, rfl⟩

theorem untouched_printing (world : World Port) (text : String) :
    world.Untouched (world.printing text) :=
  ⟨rfl, rfl, rfl⟩

end World

namespace Program

open CommandLine (Request)

variable {Port : Type} [Answering Port] {arguments : List Bytes} {request : Request}
  {settings : Settings} {world after : World Port}

/-! ## What a request comes to -/

theorem run_carryOut_of_defect {defect : Defect} (wrong : settings.defect? = some defect) :
    (carryOut request settings : Attempt Port Unit).run.run world =
      (.error (.invalid defect), world) := by
  rw [carryOut, wrong]
  rfl

theorem run_carryOut_of_print (valid : settings.Valid) (printing : request.printSettings = true) :
    (carryOut request settings : Attempt Port Unit).run.run world =
      match settings.print? with
      | some text => (.ok (), world.printing (text ++ "\n"))
      | none => (.error (.save .unwritable), world) := by
  have correct : settings.defect? = none := valid
  rw [carryOut, correct, printing]
  cases settings.print? <;> rfl

theorem run_carryOut_of_write {path : FilePath} (valid : settings.Valid)
    (quiet : request.printSettings = false) (told : request.writeTo = some path) :
    (carryOut request settings : Attempt Port Unit).run.run world =
      match (settings.save path : StateM (World Port) _).run world with
      | (.ok (), after) => (.ok (), after.printing
          ("Configuration written to: " ++ Utf8.decodeLossy path ++ "\n"))
      | (.error cause, after) => (.error (.save cause), after) := by
  have correct : settings.defect? = none := valid
  rw [carryOut, correct, quiet, told]
  change (liftM (settings.save path : StateM (World Port) _) >>= _ : Attempt Port Unit).run.run
    world = _
  rw [run_lift_bind]
  rcases (settings.save path : StateM (World Port) _).run world with ⟨_ | _, after⟩ <;> rfl

theorem run_carryOut_of_handshake (valid : settings.Valid) (quiet : request.printSettings = false)
    (untold : request.writeTo = none) :
    (carryOut request settings : Attempt Port Unit).run.run world =
      match (Machine.converse (journalLevel settings) (handshake settings) :
          StateM (World Port) _).run world with
      | (.ok report, after) =>
          (.ok (), after.printing (verdict report.outcome settings.line.targetBaud))
      | (.error cause, after) => (.error (.handshake cause), after) := by
  have correct : settings.defect? = none := valid
  rw [carryOut, correct, quiet, untold]
  change (liftM (Machine.converse (journalLevel settings) (handshake settings) :
    StateM (World Port) _) >>= _ : Attempt Port Unit).run.run world = _
  rw [run_lift_bind]
  rcases (Machine.converse (journalLevel settings) (handshake settings) :
    StateM (World Port) _).run world with ⟨_ | _, after⟩ <;> rfl

/-! ## The settings that a run works with -/

/-- The arguments can be read, there are settings to lay them over, and a run can work with what
comes of it. -/
structure Effective (arguments : List Bytes) (world : World Port) (request : Request)
    (settings : Settings) : Prop where
  parsed : CommandLine.parseLenient arguments = .ok request
  found : ∃ base, ((baseSettings request : Attempt Port Settings).run.run world).1 = .ok base ∧
    settings = request.apply base
  valid : settings.Valid

theorem run_of_effective (effective : Effective arguments world request settings) :
    (run arguments : StateM (World Port) _).run world =
      exit ((carryOut request settings : Attempt Port Unit).run.run world) := by
  obtain ⟨base, found, rfl⟩ := effective.found
  rw [run_baseSettings] at found
  rw [run_of_parsed effective.parsed, run_conclude, run_perform_of_ok found]

/-- Without settings that it can work with, a run only tells why, or how it is used. -/
theorem untouched_of_not_effective
    (none : ∀ request settings, ¬ Effective arguments world request settings) :
    let ended := (run arguments : StateM (World Port) _).run world
    world.Untouched ended.2 ∧ (ended.2.output = world.output ∨
      CommandLine.parseLenient arguments = .error .helpRequested ∧
        ended.2.output = world.output ++ help) := by
  cases parsed : CommandLine.parseLenient arguments with
  | error cause =>
      rw [run, parsed]
      cases cause with
      | helpRequested => exact ⟨World.untouched_printing world help, .inr ⟨rfl, rfl⟩⟩
      | _ => exact ⟨World.untouched_complaining world (.commandLine _), .inl rfl⟩
  | ok request =>
      rw [run_of_parsed parsed, run_conclude]
      cases found : base request world with
      | error failure =>
          rw [run_perform_of_error found]
          exact ⟨World.untouched_complaining world failure, .inl rfl⟩
      | ok base =>
          cases wrong : (request.apply base).defect? with
          | none =>
              refine absurd ⟨parsed, ⟨base, ?_, rfl⟩, wrong⟩ (none request (request.apply base))
              rw [run_baseSettings, found]
          | some defect =>
              rw [run_perform_of_ok found, run_carryOut_of_defect wrong]
              exact ⟨World.untouched_complaining world (.invalid defect), .inl rfl⟩

/-! ## What each request touches -/

theorem print_touches_nothing (effective : Effective arguments world request settings)
    (printing : request.printSettings = true) :
    let ended := (run arguments : StateM (World Port) _).run world
    world.Untouched ended.2 ∧
      ended.2.output = world.output ++ settings.print?.elim "" (· ++ "\n") := by
  rw [run_of_effective effective, run_carryOut_of_print effective.valid printing]
  cases settings.print? with
  | none =>
      exact ⟨World.untouched_complaining world (.save .unwritable), String.append_empty.symm⟩
  | some text => exact ⟨World.untouched_printing world (text ++ "\n"), rfl⟩

/-- Saving settings in a world touches one file at most, with the directories above it. -/
theorem changedAt_run_save (settings : Settings) (path : FilePath) (world : World Port) :
    let after := ((settings.save path : StateM (World Port) _).run world).2
    FileTree.ChangedAt path world.files after.files ∧ after.port = world.port ∧
      after.transcript = world.transcript := by
  by_cases writable : settings.Writable
  · have printed : settings.print? = some _ := if_pos writable
    rw [Settings.run_save_of_print? printed]
    exact ⟨FileTree.changedAt_save _ _ _, rfl, rfl⟩
  · rw [Settings.run_save_of_unwritable writable]
    exact ⟨⟨rfl, fun _ => .inl rfl⟩, rfl, rfl⟩

theorem write_touches_one_file {path : FilePath}
    (effective : Effective arguments world request settings)
    (quiet : request.printSettings = false) (told : request.writeTo = some path) :
    let ended := (run arguments : StateM (World Port) _).run world
    FileTree.ChangedAt path world.files ended.2.files ∧ ended.2.port = world.port ∧
      ended.2.transcript = world.transcript := by
  have saving := changedAt_run_save settings path world
  rw [run_of_effective effective, run_carryOut_of_write effective.valid quiet told]
  rcases saved : (settings.save path : StateM (World Port) _).run world with ⟨_ | _, after⟩ <;>
    rw [saved] at saving <;> exact saving

theorem written_settings_load {path : FilePath}
    (effective : Effective arguments world request settings)
    (quiet : request.printSettings = false) (told : request.writeTo = some path)
    (bounded : ∀ number ∈ settings.numbers, number ≤ 2 ^ 63 - 1)
    (writable : world.files.Writable path) :
    let ended := (run arguments : StateM (World Port) _).run world
    ended.1 = 0 ∧
      (Settings.load path : StateM (World Port) _).run ended.2 = (.ok settings, ended.2) := by
  obtain ⟨text, made, -, saves, -, -, held⟩ :=
    Settings.exists_saved (Settings.writable_iff.mpr bounded) writable
  rw [run_of_effective effective, run_carryOut_of_write effective.valid quiet told, saves]
  refine ⟨rfl, ?_⟩
  rw [Settings.run_load]
  exact congrArg (·, _) held

/-- A handshake in a world touches no file, and opens the port as the settings say. -/
theorem opensAsSet_converse (settings : Settings) (world : World Port) :
    let after := ((Machine.converse (journalLevel settings) (handshake settings) :
      StateM (World Port) _).run world).2
    after.files = world.files ∧ ∃ more, after.transcript = world.transcript ++ more ∧
      OpensAsSet settings.line more.calls :=
  ⟨rfl, _, rfl, opensAsSet_handshake settings world.port⟩

theorem handshake_opens_as_set (effective : Effective arguments world request settings)
    (quiet : request.printSettings = false) (untold : request.writeTo = none) :
    let ended := (run arguments : StateM (World Port) _).run world
    ended.2.files = world.files ∧ ∃ more, ended.2.transcript = world.transcript ++ more ∧
      OpensAsSet settings.line more.calls := by
  have conversing := opensAsSet_converse settings world
  rw [run_of_effective effective, run_carryOut_of_handshake effective.valid quiet untold]
  rcases conversed : (Machine.converse (journalLevel settings) (handshake settings) :
    StateM (World Port) _).run world with ⟨_ | _, after⟩ <;>
    rw [conversed] at conversing <;> exact conversing

/-- A run touches the port, a file or its first stream only if its arguments can be read and it
finds settings that it can work with.  Then it prints them and touches nothing else, if it is told
to print; or else writes them to one file, where they can be loaded again, and makes no call, if
it is told to write; or else touches no file and opens only the port of the settings, at the
initial or at the target rate. -/
theorem effects_follow_settings (arguments : List Bytes) (world : World Port) :
    let ended := (run arguments : StateM (World Port) _).run world
    ((∀ request settings, ¬ Effective arguments world request settings) →
      world.Untouched ended.2 ∧ (ended.2.output = world.output ∨
        CommandLine.parseLenient arguments = .error .helpRequested ∧
          ended.2.output = world.output ++ help)) ∧
    ∀ request settings, Effective arguments world request settings →
      (request.printSettings = true →
        world.Untouched ended.2 ∧
          ended.2.output = world.output ++ settings.print?.elim "" (· ++ "\n")) ∧
      (request.printSettings = false → ∀ path, request.writeTo = some path →
        FileTree.ChangedAt path world.files ended.2.files ∧ ended.2.port = world.port ∧
          ended.2.transcript = world.transcript ∧
          ((∀ number ∈ settings.numbers, number ≤ 2 ^ 63 - 1) → world.files.Writable path →
            ended.1 = 0 ∧ (Settings.load path : StateM (World Port) _).run ended.2 =
              (.ok settings, ended.2))) ∧
      (request.printSettings = false → request.writeTo = none →
        ended.2.files = world.files ∧ ∃ more, ended.2.transcript = world.transcript ++ more ∧
          ∀ port baud window answer, .called (.connect port baud window) answer ∈ more →
            port = settings.line.port ∧
              (baud = settings.line.initialBaud ∨ baud = settings.line.targetBaud)) := by
  intro ended
  refine ⟨untouched_of_not_effective, fun request settings effective => ⟨?_, ?_, ?_⟩⟩
  · exact print_touches_nothing effective
  · intro quiet path told
    obtain ⟨changed, samePort, sameTranscript⟩ := write_touches_one_file effective quiet told
    exact ⟨changed, samePort, sameTranscript, written_settings_load effective quiet told⟩
  · intro quiet untold
    obtain ⟨sameFiles, more, grown, opens⟩ := handshake_opens_as_set effective quiet untold
    refine ⟨sameFiles, more, grown, fun port baud window answer made => ?_⟩
    exact opens (.connect port baud window, answer) (List.mem_filterMap.mpr ⟨_, made, rfl⟩)

/-- A rate that no value follows, settings written below a directory that is missing, printed
ones that are not written, and a handshake with another port. -/
theorem effects_follow_settings_everywhere :
    let refused := ["gdb-baud", "-b"].map Bytes.ascii
    let written := ["gdb-baud", "-b", "460800", "--write-config", "new/out.toml"].map Bytes.ascii
    let printed := ["gdb-baud", "--print-config", "--write-config", "new/out.toml"].map Bytes.ascii
    let shaken := ["gdb-baud", "-c", "/dev/ttyS1"].map Bytes.ascii
    let path := Bytes.ascii "new/out.toml"
    let faster : Settings := { line := { targetBaud := 460800 } }
    let elsewhere : Settings := { line := { port := "/dev/ttyS1" } }
    let world : World Script := { port := { replies := [] } }
    let after (arguments : List Bytes) := (run arguments : StateM (World Script) _).run world
    (∀ request settings, ¬ Effective refused world request settings) ∧
      world.Untouched (after refused).2 ∧
      Effective written world { baud := some 460800, writeTo := some path } faster ∧
      (after written).1 = 0 ∧
      (Settings.load path : StateM (World Script) _).run (after written).2 =
        (.ok faster, (after written).2) ∧
      Effective printed world { printSettings := true, writeTo := some path } {} ∧
      world.Untouched (after printed).2 ∧
      Effective shaken world { port := some "/dev/ttyS1" } elsewhere ∧
      (after shaken).2.files = world.files ∧
      .called (.connect "/dev/ttyS1" 115200 200) (.ok []) ∈ (after shaken).2.transcript ∧
      "/dev/ttyS1" = elsewhere.line.port := by
  intro refused written printed shaken path faster elsewhere world after
  have unread : CommandLine.parseLenient refused = .error .missingValue := by decide +kernel
  have ineffective : ∀ request settings, ¬ Effective refused world request settings :=
    fun _ _ effective => nomatch unread.symm.trans effective.parsed
  have writes : Effective written world { baud := some 460800, writeTo := some path } faster :=
    ⟨by decide +kernel, ⟨{}, by decide +kernel, rfl⟩, by decide +kernel⟩
  have prints : Effective printed world { printSettings := true, writeTo := some path } {} :=
    ⟨by decide +kernel, ⟨{}, by decide +kernel, rfl⟩, by decide +kernel⟩
  have shakes : Effective shaken world { port := some "/dev/ttyS1" } elsewhere :=
    ⟨by decide +kernel, ⟨{}, by decide +kernel, rfl⟩, by decide +kernel⟩
  have bounded : ∀ number ∈ faster.numbers, number ≤ 2 ^ 63 - 1 := by decide +kernel
  have writable : world.files.Writable path :=
    ⟨[], (world.files.save path []).1, [], by decide +kernel, by decide +kernel⟩
  have untouched := (effects_follow_settings refused world).1 ineffective
  have saved := ((effects_follow_settings written world).2 _ _ writes).2.1 rfl path rfl
  have shown := ((effects_follow_settings printed world).2 _ _ prints).1 rfl
  obtain ⟨sameFiles, more, grown, opens⟩ :=
    ((effects_follow_settings shaken world).2 _ _ shakes).2.2 rfl rfl
  have opened : .called (.connect "/dev/ttyS1" 115200 200) (.ok []) ∈
      (after shaken).2.transcript := by decide +kernel
  have opening := opens _ _ _ _ (grown ▸ opened)
  obtain ⟨done, loads⟩ := saved.2.2.2 bounded writable
  exact ⟨ineffective, untouched.1, writes, done, loads, prints, shown.1, shakes, sameFiles, opened,
    opening.1⟩

end Program

end BaudSwitch
