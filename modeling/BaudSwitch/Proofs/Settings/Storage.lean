import BaudSwitch.Port.Script
import BaudSwitch.Proofs.FileTree.Saving
import BaudSwitch.Proofs.Settings.Document

/-!
# Settings saved and loaded

Settings that were saved at a path are loaded from it as they were, and saving them once more
writes the same text.  Settings that no document can give are not saved, and nothing is touched.
-/

namespace BaudSwitch

namespace FileTree

variable {tree : FileTree} {path : FilePath} {content : Bytes}

theorem contains_of_find {node : Node} (found : tree.find path = .ok node) :
    tree.contains path = true := by
  rw [contains, found]
  rfl

theorem read_of_find (found : tree.find path = .ok (.file content)) :
    tree.read path = .ok content := by
  rw [read, found]
  rfl

end FileTree

namespace World

variable {Port : Type} [Answering Port]

theorem run_contains (path : FilePath) (world : World Port) :
    (Machine.contains path : StateM (World Port) _).run world =
      (world.files.contains path, world) := rfl

theorem run_read (path : FilePath) (world : World Port) :
    (Machine.read path : StateM (World Port) _).run world = (world.files.read path, world) := rfl

theorem run_save (path : FilePath) (content : Bytes) (world : World Port) :
    (Machine.save path content : StateM (World Port) _).run world =
      ((world.files.save path content).2,
        { world with files := (world.files.save path content).1 }) := rfl

end World

namespace Settings

variable {Port : Type} [Answering Port] {settings : Settings} {path : FilePath} {text : String}

/-- The settings in a file of a tree. -/
def inTree (tree : FileTree) (path : FilePath) : Except StorageError Settings :=
  if tree.contains path then
    match tree.read path with
    | .ok content => ofContent content
    | .error cause => .error (.file cause)
  else .error (.missing path)

/-- Loading looks at the files and changes nothing. -/
theorem run_load (path : FilePath) (world : World Port) :
    (load path : StateM (World Port) _).run world = (inTree world.files path, world) := by
  rw [load, StateT.run_bind, World.run_contains, inTree]
  cases world.files.contains path with
  | false => rfl
  | true =>
      change StateT.run (_ >>= _) world = _
      rw [StateT.run_bind, World.run_read]
      cases world.files.read path <;> rfl

theorem inTree_of_find {tree : FileTree} {content : Bytes}
    (found : tree.find path = .ok (.file content)) : inTree tree path = ofContent content := by
  rw [inTree, if_pos (FileTree.contains_of_find found), FileTree.read_of_find found]

theorem run_save_of_print? (printed : settings.print? = some text) (world : World Port) :
    (save settings path : StateM (World Port) _).run world =
      ((world.files.save path (Utf8.encode text)).2.mapError .file,
        { world with files := (world.files.save path (Utf8.encode text)).1 }) := by
  rw [save, printed]
  change StateT.run (_ >>= _) world = _
  rw [StateT.run_bind, World.run_save]
  cases (world.files.save path (Utf8.encode text)).2 <;> rfl

/-- Settings that no document can give touch nothing. -/
theorem run_save_of_unwritable (unwritable : ¬ settings.Writable) (world : World Port) :
    (save settings path : StateM (World Port) _).run world = (.error .unwritable, world) := by
  rw [save, print?_eq_none_iff.mpr unwritable]
  rfl

/-- Settings that a document can give are saved wherever a file can be, and are in that file. -/
theorem exists_saved (bounded : settings.Writable) {world : World Port}
    (writable : world.files.Writable path) :
    ∃ text made, settings.print? = some text ∧
      (save settings path : StateM (World Port) _).run world =
        (.ok (), { world with files := made }) ∧
      made.find path = .ok (.file (Utf8.encode text)) ∧
      made.save path (Utf8.encode text) = (made, .ok ()) ∧ inTree made path = .ok settings := by
  obtain ⟨text, printed⟩ : ∃ text, settings.print? = some text := ⟨_, if_pos bounded⟩
  obtain ⟨made, saved, found⟩ := writable.save (Utf8.encode text)
  refine ⟨text, made, printed, ?_, found, FileTree.save_again saved, ?_⟩
  · rw [run_save_of_print? printed, saved]
    rfl
  · rw [inTree_of_find found, ofContent_of_print? printed]

/-- Settings with numbers of 63 bits are saved wherever a file can be, and load as they were;
saving what was loaded writes the same text.  Settings with a larger number are refused, and
nothing is touched. -/
theorem load_save (settings : Settings) (path : FilePath) (world : World Port) :
    ((∀ number ∈ settings.numbers, number ≤ 2 ^ 63 - 1) → world.files.Writable path →
      ∃ text saved,
        settings.print? = some text ∧
        (save settings path : StateM (World Port) _).run world = (.ok (), saved) ∧
        saved.files.read path = .ok (Utf8.encode text) ∧
        (load path : StateM (World Port) _).run saved = (.ok settings, saved) ∧
        ∀ loaded, ((load path : StateM (World Port) _).run saved).1 = .ok loaded →
          (save loaded path : StateM (World Port) _).run saved = (.ok (), saved)) ∧
    ((∃ number ∈ settings.numbers, 2 ^ 63 - 1 < number) →
      (save settings path : StateM (World Port) _).run world = (.error .unwritable, world)) := by
  constructor
  · intro bounded writable
    obtain ⟨text, made, printed, saves, found, again, held⟩ :=
      exists_saved (writable_iff.mpr bounded) writable
    have loads : (load path : StateM (World Port) _).run { world with files := made } =
        (.ok settings, { world with files := made }) := by
      rw [run_load, held]
    refine ⟨text, { world with files := made }, printed, saves, FileTree.read_of_find found, loads,
      ?_⟩
    intro loaded same
    rw [loads] at same
    cases same
    rw [run_save_of_print? printed, again]
    rfl
  · rintro ⟨number, held, large⟩
    have unwritable : ¬ settings.Writable := fun writable =>
      Nat.not_le_of_lt large (writable_iff.mp writable number held)
    exact run_save_of_unwritable unwritable world

/-- A port name that needs escapes, at a path whose directories are missing; and a number that
is one too large. -/
theorem load_save_escaped :
    let settings : Settings :=
      { line := { port := "\x22a\x22\\b\nc\x01\x7f'''é", readTimeout := 0x7FFFFFFFFFFFFFFF } }
    let excessive : Settings := { line := { settleDelay := 0x8000000000000000 } }
    let path := Bytes.ascii "new/er/out.toml"
    let world : World Script := { port := { replies := [] } }
    (∀ number ∈ settings.numbers, number ≤ 2 ^ 63 - 1) ∧ world.files.Writable path ∧
      (∃ saved, (save settings path : StateM (World Script) _).run world = (.ok (), saved) ∧
        (load path : StateM (World Script) _).run saved = (.ok settings, saved)) ∧
      (∃ number ∈ excessive.numbers, 2 ^ 63 - 1 < number) ∧
      (save excessive path : StateM (World Script) _).run world = (.error .unwritable, world) := by
  intro settings excessive path world
  have bounded : ∀ number ∈ settings.numbers, number ≤ 2 ^ 63 - 1 := by decide +kernel
  have writable : world.files.Writable path :=
    ⟨[], (world.files.save path []).1, [], by decide +kernel, by decide +kernel⟩
  have large : ∃ number ∈ excessive.numbers, 2 ^ 63 - 1 < number :=
    ⟨2 ^ 63, by decide +kernel, by decide⟩
  obtain ⟨-, saved, -, saves, -, loads, -⟩ := (load_save settings path world).1 bounded writable
  exact ⟨bounded, writable, ⟨saved, saves, loads⟩, large, (load_save excessive path world).2 large⟩

end Settings

end BaudSwitch
