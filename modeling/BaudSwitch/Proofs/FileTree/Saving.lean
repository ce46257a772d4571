import BaudSwitch.Proofs.FileTree.Places

/-!
# What saving a file changes

Saving may make directories on the way of its path, in places where nothing stood, and changes
one file, the one that its path leads to.  What was saved is read back, and saving it once more
changes nothing.
-/

namespace BaudSwitch

/-- The first path is what remains of the second without some of its last names. -/
inductive FilePath.Above : FilePath → FilePath → Prop where
  | parent {above path : FilePath} : path.parent? = some above → Above above path
  | further {far above path : FilePath} :
      path.parent? = some above → Above far above → Above far path

namespace FileTree

variable {tree made ready : FileTree} {path : FilePath} {content : Bytes} {cause : FileError}

/-! ## Trees with more directories -/

/-- Directories were made where some of these paths lead and nothing stood, and nothing else
changed. -/
structure Grown (asked : FilePath → Prop) (tree made : FileTree) : Prop where
  workingDirectory : made.workingDirectory = tree.workingDirectory
  change : ∀ place, made.at? place = tree.at? place ∨
    (tree.at? place = none ∧ made.at? place = some .directory ∧
      ∃ path, asked path ∧ made.locate path = .ok place)

namespace Grown

variable {asked more : FilePath → Prop}

theorem refl (tree : FileTree) : Grown asked tree tree :=
  ⟨rfl, fun _ => .inl rfl⟩

theorem grows (grown : Grown asked tree made) : tree.Extends made where
  workingDirectory := grown.workingDirectory
  directories place held := by
    rw [holds_iff] at held ⊢
    rcases grown.change place with same | ⟨absent, -, -⟩
    · rw [same, held]
    · rw [absent] at held
      cases held
  stands place stood := by
    rcases grown.change place with same | ⟨-, directory, -⟩
    · rwa [same]
    · rw [directory]
      rfl

theorem mono (grown : Grown asked tree made) (weaker : ∀ path, asked path → more path) :
    Grown more tree made where
  workingDirectory := grown.workingDirectory
  change place := (grown.change place).imp_right fun ⟨absent, directory, path, wanted, located⟩ =>
    ⟨absent, directory, path, weaker path wanted, located⟩

theorem trans {last : FileTree} (first : Grown asked tree made) (second : Grown asked made last) :
    Grown asked tree last where
  workingDirectory := second.workingDirectory.trans first.workingDirectory
  change place := by
    rcases second.change place with same | ⟨absent, directory, path, wanted, located⟩
    · rcases first.change place with before | ⟨absent, directory, path, wanted, located⟩
      · exact .inl (same.trans before)
      · exact .inr ⟨absent, same.trans directory, path, wanted, second.grows.locate located⟩
    · rcases first.change place with before | ⟨-, there, -⟩
      · exact .inr ⟨before.symm.trans absent, directory, path, wanted, located⟩
      · rw [there] at absent
        cases absent

end Grown

/-! ## Making a directory -/

theorem makeDirectory_eq_ok (succeeded : tree.makeDirectory path = .ok made) :
    ∃ directory name, tree.target path = .ok (some (directory, name)) ∧
      name.length ≤ longestName ∧ tree.at? (directory ++ [name]) = none ∧
      made = tree.put (directory ++ [name]) .directory := by
  obtain ⟨aim, aims, ended⟩ := Except.bind_eq_ok.mp succeeded
  match aim with
  | none => cases ended
  | some (directory, name) =>
      dsimp only at ended
      split_ifs at ended with long _ taken <;> cases ended
      exact ⟨directory, name, aims, Nat.le_of_not_lt long,
        Option.not_isSome_iff_eq_none.mp taken, rfl⟩

/-- A directory that was made is where its path leads, and nothing else changed. -/
theorem grown_makeDirectory (succeeded : tree.makeDirectory path = .ok made) :
    Grown (· = path) tree made ∧ made.containsDirectory path = true := by
  obtain ⟨directory, name, aims, short, absent, rfl⟩ := makeDirectory_eq_ok succeeded
  have noDirectory : tree.holds (directory ++ [name]) = false := by
    rw [holds, absent]
    rfl
  have there : (tree.put (directory ++ [name]) .directory).at? (directory ++ [name]) =
      some .directory := at?_put_self concat_ne_nil
  have held := holds_iff.mpr there
  have grows : tree.Extends (tree.put (directory ++ [name]) .directory) :=
    extends_put concat_ne_nil noDirectory
  have located := locate_of_target (grows.target aims) short (by rw [there]; rfl) (.inr held)
  refine ⟨⟨rfl, fun place => ?_⟩, containsDirectory_iff.mpr ⟨_, located, held⟩⟩
  by_cases same : place = directory ++ [name]
  · rw [same]
    exact .inr ⟨absent, there, path, rfl, located⟩
  · exact .inl (at?_put_ne same)

/-- A directory that is there is not made. -/
theorem makeDirectory_of_containsDirectory (found : tree.containsDirectory path = true) :
    ∃ cause, tree.makeDirectory path = .error cause := by
  cases outcome : tree.makeDirectory path with
  | error cause => exact ⟨cause, rfl⟩
  | ok made =>
      obtain ⟨directory, name, aims, -, absent, -⟩ := makeDirectory_eq_ok outcome
      obtain ⟨place, located, -⟩ := containsDirectory_iff.mp found
      have stands := stands_of_locate aims located
      rw [absent] at stands
      cases stands

theorem ensureDirectory_of_containsDirectory (found : tree.containsDirectory path = true) :
    tree.ensureDirectory path = (tree, .ok ()) := by
  obtain ⟨cause, failed⟩ := makeDirectory_of_containsDirectory found
  rw [ensureDirectory, failed]
  exact if_pos found

theorem grown_ensureDirectory (tree : FileTree) (path : FilePath) :
    Grown (· = path) tree (tree.ensureDirectory path).1 ∧
      ((tree.ensureDirectory path).2 = .ok () →
        (tree.ensureDirectory path).1.containsDirectory path = true) := by
  rw [ensureDirectory]
  cases outcome : tree.makeDirectory path with
  | ok made =>
      obtain ⟨grown, contained⟩ := grown_makeDirectory outcome
      exact ⟨grown, fun _ => contained⟩
  | error cause =>
      dsimp only
      split
      case isTrue found => exact ⟨.refl tree, fun _ => found⟩
      case isFalse => exact ⟨.refl tree, nofun⟩

/-! ## Making the directories on a way -/

/-- What making the directories of a path may bring: only they were made, and the path leads to
a directory if that succeeded. -/
structure Ensured (path : FilePath) (tree : FileTree) (outcome : Made) : Prop where
  grown : Grown (fun asked => asked = path ∨ asked.Above path) tree outcome.1
  contained : outcome.2 = .ok () → path = [] ∨ outcome.1.containsDirectory path = true

theorem ensured_ensureDirectory (tree : FileTree) (path : FilePath) :
    Ensured path tree (tree.ensureDirectory path) := by
  obtain ⟨grown, contained⟩ := grown_ensureDirectory tree path
  exact ⟨grown.mono fun _ same => .inl same, fun succeeded => .inr (contained succeeded)⟩

/-- What was made for the directory above a path was made above the path. -/
theorem Ensured.above {above : FilePath} {outcome : Made} (up : path.parent? = some above)
    (ensured : Ensured above tree outcome) : Grown (fun asked => asked.Above path) tree outcome.1 :=
  ensured.grown.mono fun _ wanted => wanted.elim (fun same => same ▸ .parent up) (.further up)

theorem ensured_ensureDirectories (limit : Nat) (tree : FileTree) (path : FilePath) :
    Ensured path tree (ensureDirectories limit tree path) := by
  fun_induction ensureDirectories limit tree path with
  | case1 => exact ⟨.refl _, fun _ => .inl rfl⟩
  | case2 tree path => exact ensured_ensureDirectory tree path
  | case3 => exact ⟨.refl _, nofun⟩
  | case4 limit tree path _ _ _ parent up made succeeded inductionHypothesis =>
      have earlier := inductionHypothesis.above up
      rw [succeeded] at earlier
      obtain ⟨grown, contained⟩ := ensured_ensureDirectory made path
      exact ⟨(earlier.mono fun _ => .inr).trans grown, contained⟩
  | case5 limit tree path _ _ _ parent up failed inductionHypothesis =>
      refine ⟨(inductionHypothesis.above up).mono fun _ => .inr, fun succeeded => ?_⟩
      exact (failed _ (Prod.ext rfl succeeded)).elim
  | case6 limit tree path => exact ensured_ensureDirectory tree path

theorem ensureDirectories_of_containsDirectory {limit : Nat}
    (found : path = [] ∨ tree.containsDirectory path = true) :
    ensureDirectories limit tree path = (tree, .ok ()) := by
  by_cases empty : path = []
  · rw [empty, ensureDirectories]
  · have there := ensureDirectory_of_containsDirectory (found.resolve_left empty)
    cases limit <;> rw [ensureDirectories, there] <;> exact empty

/-! ## Writing a file -/

/-- A path ends in a name that a file can have, and writing to it writes at this place. -/
def Lands (tree : FileTree) (path : FilePath) (place : Place) : Prop :=
  ∃ directory name, tree.target path = .ok (some (directory, name)) ∧
    place = directory ++ [name] ∧ (withoutSlashes path.parts).2 = false ∧
    name.length ≤ longestName

namespace Lands

variable {place : Place}

theorem ne_nil (lands : tree.Lands path place) : place ≠ [] := by
  obtain ⟨directory, name, -, rfl, -⟩ := lands
  exact concat_ne_nil

theorem grow (grows : tree.Extends made) (lands : tree.Lands path place) :
    made.Lands path place := by
  obtain ⟨directory, name, aims, rest⟩ := lands
  exact ⟨directory, name, grows.target aims, rest⟩

theorem locate (lands : tree.Lands path place) (stands : (tree.at? place).isSome = true) :
    tree.locate path = .ok place := by
  obtain ⟨directory, name, aims, rfl, ends, short⟩ := lands
  exact locate_of_target aims short stands (.inl ends)

theorem write (lands : tree.Lands path place) (content : Bytes) :
    tree.write path content =
      match tree.at? place with
      | some .directory => .error .isADirectory
      | some .device | some .terminal => .ok tree
      | _ => .ok (tree.put place (.file content)) := by
  obtain ⟨directory, name, aims, rfl, ends, short⟩ := lands
  rw [FileTree.write, aims]
  change (if _ then _ else if _ then _ else _) = _
  rw [ends, if_neg Bool.false_ne_true, if_neg (Nat.not_lt.mpr short)]
  rfl

end Lands

theorem exists_lands (written : tree.write path content = .ok made) :
    ∃ place, tree.Lands path place := by
  obtain ⟨aim, aims, ended⟩ := Except.bind_eq_ok.mp written
  match aim with
  | none => cases ended
  | some (directory, name) =>
      dsimp only at ended
      split_ifs at ended with slashes _ long
      · cases ended
      · cases ended
      · cases ended
      · exact ⟨_, directory, name, aims, rfl, by simpa using slashes, Nat.le_of_not_lt long⟩

/-- What a file can be put in the place of. -/
def Replaceable (tree : FileTree) (place : Place) : Prop :=
  tree.at? place = none ∨ ∃ held, tree.at? place = some (.file held)

theorem Replaceable.holds {place : Place} (replaceable : tree.Replaceable place) :
    tree.holds place = false := by
  rcases replaceable with absent | ⟨held, file⟩
  · rw [FileTree.holds, absent]
    rfl
  · rw [FileTree.holds, file]
    rfl

theorem Lands.write_of_replaceable {place : Place} (lands : tree.Lands path place)
    (replaceable : tree.Replaceable place) (content : Bytes) :
    tree.write path content = .ok (tree.put place (.file content)) := by
  rw [lands.write]
  rcases replaceable with absent | ⟨held, file⟩
  · rw [absent]
  · rw [file]

/-- Writing leaves the tree alone, where a device swallows what is written, or puts the file
where there is none or in place of another one. -/
theorem write_eq_ok (written : tree.write path content = .ok made) :
    ∃ place, tree.Lands path place ∧
      ((tree.at? place = some .device ∨ tree.at? place = some .terminal) ∧ made = tree ∨
        tree.Replaceable place ∧ made = tree.put place (.file content)) := by
  obtain ⟨place, lands⟩ := exists_lands written
  refine ⟨place, lands, ?_⟩
  have outcome := (lands.write content).symm.trans written
  match stood : tree.at? place with
  | none =>
      rw [stood] at outcome
      cases outcome
      exact .inr ⟨.inl stood, rfl⟩
  | some (.file held) =>
      rw [stood] at outcome
      cases outcome
      exact .inr ⟨.inr ⟨held, stood⟩, rfl⟩
  | some .directory =>
      rw [stood] at outcome
      cases outcome
  | some .device =>
      rw [stood] at outcome
      cases outcome
      exact .inl ⟨.inl rfl, rfl⟩
  | some .terminal =>
      rw [stood] at outcome
      cases outcome
      exact .inl ⟨.inr rfl, rfl⟩

theorem extends_write (written : tree.write path content = .ok made) : tree.Extends made := by
  obtain ⟨place, lands, ⟨-, rfl⟩ | ⟨replaceable, rfl⟩⟩ := write_eq_ok written
  · exact .refl _
  · exact extends_put lands.ne_nil replaceable.holds

/-- Writing changes what its path leads to and nothing else. -/
theorem at?_write (written : tree.write path content = .ok made) (place : Place) :
    made.at? place = tree.at? place ∨
      made.at? place = some (.file content) ∧ made.locate path = .ok place := by
  have grows := extends_write written
  obtain ⟨target, lands, ⟨-, rfl⟩ | ⟨-, rfl⟩⟩ := write_eq_ok written
  · exact .inl rfl
  · by_cases same : place = target
    · subst same
      have there : (tree.put place (.file content)).at? place = some (.file content) :=
        at?_put_self lands.ne_nil
      exact .inr ⟨there, (lands.grow grows).locate (by rw [there]; rfl)⟩
    · exact .inl (at?_put_ne same)

/-- What was written can be written again, which changes nothing. -/
theorem write_again (written : tree.write path content = .ok made) :
    made.write path content = .ok made := by
  have grows := extends_write written
  obtain ⟨place, lands, ⟨device, rfl⟩ | ⟨-, rfl⟩⟩ := write_eq_ok written
  · exact written
  · rw [(lands.grow grows).write, at?_put_self lands.ne_nil]
    dsimp only
    rw [put_put]

/-- Where something was written and is a file now, anything else can be written just as well, and
is read back. -/
theorem exists_write {held : Bytes} (written : tree.write path content = .ok made)
    (file : made.find path = .ok (.file held)) (other : Bytes) :
    ∃ rewritten, tree.write path other = .ok rewritten ∧
      rewritten.find path = .ok (.file other) := by
  obtain ⟨place, lands, ⟨device, rfl⟩ | ⟨replaceable, rfl⟩⟩ := write_eq_ok written
  · obtain ⟨found, located, stood⟩ := find_eq_ok.mp file
    have stands : (made.at? place).isSome = true := by
      rcases device with device | device <;> rw [device] <;> rfl
    cases (lands.locate stands).symm.trans located
    rw [stood] at device
    rcases device with device | device <;> cases device
  · have rewritten := lands.write_of_replaceable replaceable other
    have there : (tree.put place (.file other)).at? place = some (.file other) :=
      at?_put_self lands.ne_nil
    have located := (lands.grow (extends_write rewritten)).locate (by rw [there]; rfl)
    exact ⟨_, rewritten, find_eq_ok.mpr ⟨place, located, there⟩⟩

/-! ## Saving -/

/-- The directories above a path, made. -/
def prepare (tree : FileTree) (path : FilePath) : Made :=
  match path.parent? with
  | none => (tree, .ok ())
  | some parent => ensureDirectories parent.length tree parent

theorem grown_prepare (tree : FileTree) (path : FilePath) :
    Grown (fun asked => asked.Above path) tree (tree.prepare path).1 := by
  rw [prepare]
  cases up : path.parent? with
  | none => exact .refl tree
  | some parent => exact (ensured_ensureDirectories _ tree parent).above up

/-- Directories that were made once are not made again. -/
theorem prepare_again (prepared : tree.prepare path = (ready, .ok ()))
    (grows : ready.Extends made) : made.prepare path = (made, .ok ()) := by
  rw [prepare] at prepared ⊢
  cases up : path.parent? with
  | none => rfl
  | some parent =>
      rw [up] at prepared
      have ensured :=
        (ensured_ensureDirectories _ tree parent).contained (congrArg Prod.snd prepared)
      dsimp only at prepared
      rw [prepared] at ensured
      exact ensureDirectories_of_containsDirectory (ensured.imp_right grows.containsDirectory)

theorem save_eq (tree : FileTree) (path : FilePath) (content : Bytes) :
    tree.save path content =
      match tree.prepare path with
      | (made, .error cause) => (made, .error cause)
      | (made, .ok ()) =>
          match made.write path content with
          | .ok written => (written, .ok ())
          | .error cause => (made, .error cause) := rfl

theorem save_eq_ok : tree.save path content = (made, .ok ()) ↔
    ∃ ready, tree.prepare path = (ready, .ok ()) ∧ ready.write path content = .ok made := by
  rw [save_eq]
  constructor
  · intro saved
    split at saved
    · cases saved
    case h_2 ready prepared =>
      split at saved
      case h_1 written =>
        cases saved
        exact ⟨ready, prepared, written⟩
      · cases saved
  · rintro ⟨ready, prepared, written⟩
    rw [prepared]
    dsimp only
    rw [written]

/-- Only the file that a path leads to changed, and directories above it were made where nothing
stood. -/
structure ChangedAt (path : FilePath) (tree made : FileTree) : Prop where
  workingDirectory : made.workingDirectory = tree.workingDirectory
  change : ∀ place, made.at? place = tree.at? place ∨
    (∃ content, made.at? place = some (.file content) ∧ made.locate path = .ok place) ∨
    (tree.at? place = none ∧ made.at? place = some .directory ∧
      ∃ above, above.Above path ∧ made.locate above = .ok place)

theorem Grown.changedAt (grown : Grown (fun asked => asked.Above path) tree made) :
    ChangedAt path tree made :=
  ⟨grown.workingDirectory, fun place => (grown.change place).imp_right .inr⟩

theorem changedAt_save (tree : FileTree) (path : FilePath) (content : Bytes) :
    ChangedAt path tree (tree.save path content).1 := by
  have grown := grown_prepare tree path
  rw [save_eq]
  split
  case h_1 prepared =>
    rw [prepared] at grown
    exact grown.changedAt
  case h_2 ready prepared =>
    rw [prepared] at grown
    split
    case h_1 made written =>
      have grows := extends_write written
      refine ⟨grows.workingDirectory.trans grown.workingDirectory, fun place => ?_⟩
      rcases at?_write written place with same | ⟨file, located⟩
      · rcases grown.change place with before | ⟨absent, directory, above, wanted, leads⟩
        · exact .inl (same.trans before)
        · exact .inr (.inr ⟨absent, same.trans directory, above, wanted, grows.locate leads⟩)
      · exact .inr (.inl ⟨content, file, located⟩)
    case h_2 => exact grown.changedAt

/-- Saving the same content again changes nothing. -/
theorem save_again (saved : tree.save path content = (made, .ok ())) :
    made.save path content = (made, .ok ()) := by
  obtain ⟨ready, prepared, written⟩ := save_eq_ok.mp saved
  exact save_eq_ok.mpr ⟨made, prepare_again prepared (extends_write written), write_again written⟩

/-- Some file can be saved at a path: saving it succeeds, and the path leads to a file then. -/
def Writable (tree : FileTree) (path : FilePath) : Prop :=
  ∃ content made held, tree.save path content = (made, .ok ()) ∧ made.find path = .ok (.file held)

/-- Where some file can be saved, every content can, and it is read back. -/
theorem Writable.save (writable : tree.Writable path) (content : Bytes) :
    ∃ made, tree.save path content = (made, .ok ()) ∧ made.find path = .ok (.file content) := by
  obtain ⟨other, first, held, saved, file⟩ := writable
  obtain ⟨ready, prepared, written⟩ := save_eq_ok.mp saved
  obtain ⟨made, rewritten, found⟩ := exists_write written file content
  exact ⟨made, save_eq_ok.mpr ⟨ready, prepared, rewritten⟩, found⟩

end FileTree

end BaudSwitch
