import BaudSwitch.FileTree
import Mathlib.Data.List.DropRight

/-!
# Places that stay found

A tree extends another one when every directory is still one and every place that held something
still holds something.  What a path led to in the first tree, it leads to in the second: names
are followed through directories only, and no directory on the way is lost.
-/

namespace BaudSwitch

theorem Except.bind_eq_ok {Cause First Second : Type} {first : Except Cause First}
    {andThen : First → Except Cause Second} {value : Second} :
    (first >>= andThen) = .ok value ↔
      ∃ middle, first = .ok middle ∧ andThen middle = .ok value := by
  cases first with
  | error cause => exact ⟨nofun, nofun⟩
  | ok middle =>
      constructor
      · exact fun ended => ⟨middle, rfl, ended⟩
      · rintro ⟨_, ⟨⟩, ended⟩
        exact ended

namespace FileTree

variable {tree made : FileTree} {place next directory : Place} {node : Node} {name part : Bytes}
  {path : FilePath}

/-! ## What stands at a place -/

theorem at?_of_ne_nil (below : place ≠ []) : tree.at? place = tree.nodes.lookup place := by
  cases place with
  | nil => exact absurd rfl below
  | cons => rfl

theorem concat_ne_nil : directory ++ [name] ≠ [] :=
  List.append_ne_nil_of_right_ne_nil _ (List.cons_ne_nil _ _)

theorem holds_iff : tree.holds place = true ↔ tree.at? place = some .directory := by
  rw [holds, beq_iff_eq]

theorem at?_put_self (below : place ≠ []) : (tree.put place node).at? place = some node := by
  have removed : (tree.nodes.filter fun entry => entry.1 != place).lookup place = none := by
    rw [List.lookup_eq_none_iff]
    intro entry kept
    rw [bne_comm]
    exact (List.mem_filter.mp kept).2
  rw [at?_of_ne_nil below, put, List.lookup_append, removed, List.lookup_cons_self]
  rfl

theorem lookup_filter_ne {other : Place} (different : other ≠ place)
    (nodes : List (Place × Node)) :
    (nodes.filter fun entry => entry.1 != place).lookup other = nodes.lookup other := by
  induction nodes with
  | nil => rfl
  | cons entry nodes inductionHypothesis =>
      by_cases removed : entry.1 = place
      · have missed : (other == entry.1) = false := beq_eq_false_iff_ne.mpr (removed ▸ different)
        rw [List.filter_cons_of_neg (by simpa using removed), inductionHypothesis, List.lookup_cons,
          missed]
      · rw [List.filter_cons_of_pos (by simpa using removed), List.lookup_cons, List.lookup_cons,
          inductionHypothesis]

theorem at?_put_ne {other : Place} (different : other ≠ place) :
    (tree.put place node).at? other = tree.at? other := by
  by_cases below : other = []
  · rw [below]
    rfl
  · have missed : (other == place) = false := beq_eq_false_iff_ne.mpr different
    rw [at?_of_ne_nil below, at?_of_ne_nil below, put, List.lookup_append,
      lookup_filter_ne different, List.lookup_cons, missed, List.lookup_nil, Option.or_none]

/-- What was put at a place last is what counts. -/
theorem put_put (later : Node) : (tree.put place node).put place later = tree.put place later := by
  simp [put, List.filter_filter]

/-! ## Names -/

/-- A part of a path that names something. -/
structure Names (part : Bytes) : Prop where
  filled : part ≠ []
  notHere : part ≠ FilePath.here
  notAbove : part ≠ FilePath.above
  short : part.length ≤ longestName

/-- A part of a path leads on from a directory: it stays there, leads above it, or leads to
what stands there by a name. -/
theorem enter_eq_ok : tree.enter place part = .ok next ↔ tree.holds place = true ∧
    ((part = [] ∨ part = FilePath.here) ∧ next = place ∨
      part = FilePath.above ∧ next = place.dropLast ∨
      Names part ∧ (tree.at? next).isSome = true ∧ next = place ++ [part]) := by
  constructor
  · intro entered
    unfold enter at entered
    split_ifs at entered with entrance stays upwards long missing <;> cases entered
    · exact ⟨by simpa using entrance, .inl ⟨stays, rfl⟩⟩
    · exact ⟨by simpa using entrance, .inr (.inl ⟨upwards, rfl⟩)⟩
    · rw [not_or] at stays
      refine ⟨by simpa using entrance, .inr (.inr ⟨?_, ?_, rfl⟩)⟩
      · exact ⟨stays.1, stays.2, upwards, Nat.le_of_not_lt long⟩
      · simpa [Option.isSome_iff_ne_none] using missing
  · rintro ⟨held, ⟨stays, rfl⟩ | ⟨rfl, rfl⟩ | ⟨names, stands, rfl⟩⟩
    · simp [enter, held, stays]
    · rw [enter, held]
      rfl
    · have found : ¬ (tree.at? (place ++ [part])).isNone = true := by
        simpa [Option.isSome_iff_ne_none] using stands
      rw [enter, held, if_neg (by decide), if_neg (not_or.mpr ⟨names.filled, names.notHere⟩),
        if_neg names.notAbove, if_neg (Nat.not_lt.mpr names.short), if_neg found]

/-! ## Trees that grow -/

/-- Directories stay directories, and what stands somewhere does not go away. -/
structure Extends (tree made : FileTree) : Prop where
  workingDirectory : made.workingDirectory = tree.workingDirectory
  directories : ∀ place, tree.holds place = true → made.holds place = true
  stands : ∀ place, (tree.at? place).isSome = true → (made.at? place).isSome = true

theorem Extends.refl (tree : FileTree) : tree.Extends tree :=
  ⟨rfl, fun _ => id, fun _ => id⟩

theorem extends_put (below : place ≠ []) (noDirectory : tree.holds place = false) :
    tree.Extends (tree.put place node) where
  workingDirectory := rfl
  directories other held := by
    have different : other ≠ place := by
      rintro rfl
      rw [noDirectory] at held
      cases held
    rwa [holds, at?_put_ne different]
  stands other found := by
    by_cases same : other = place
    · rw [same, at?_put_self below]
      rfl
    · rwa [at?_put_ne same]

namespace Extends

variable (grows : tree.Extends made)
include grows

theorem enter (entered : tree.enter place part = .ok next) : made.enter place part = .ok next := by
  obtain ⟨held, leads⟩ := enter_eq_ok.mp entered
  refine enter_eq_ok.mpr ⟨grows.directories place held, ?_⟩
  rcases leads with stays | upwards | ⟨names, stands, extended⟩
  · exact .inl stays
  · exact .inr (.inl upwards)
  · exact .inr (.inr ⟨names, grows.stands next stands, extended⟩)

theorem follow {parts : List Bytes} (followed : tree.follow place parts = .ok next) :
    made.follow place parts = .ok next := by
  induction parts generalizing place with
  | nil => exact followed
  | cons part parts inductionHypothesis =>
      rw [FileTree.follow, List.foldlM_cons, Except.bind_eq_ok] at followed ⊢
      obtain ⟨middle, entered, onward⟩ := followed
      exact ⟨middle, grows.enter entered, inductionHypothesis onward⟩

theorem origin (path : FilePath) : made.origin path = tree.origin path := by
  rw [FileTree.origin, FileTree.origin, grows.workingDirectory]

theorem locate (located : tree.locate path = .ok place) : made.locate path = .ok place := by
  rw [FileTree.locate, Except.bind_eq_ok] at located ⊢
  obtain ⟨start, begins, followed⟩ := located
  exact ⟨start, (grows.origin path).trans begins, grows.follow followed⟩

end Extends

/-! ## Finding -/

theorem find_eq_ok : tree.find path = .ok node ↔
    ∃ place, tree.locate path = .ok place ∧ tree.at? place = some node := by
  rw [find, Except.bind_eq_ok]
  refine exists_congr fun place => and_congr_right fun _ => ?_
  cases tree.at? place with
  | none => exact ⟨nofun, nofun⟩
  | some found => exact ⟨fun same => by cases same; rfl, fun same => by cases same; rfl⟩

theorem containsDirectory_iff : tree.containsDirectory path = true ↔
    ∃ place, tree.locate path = .ok place ∧ tree.holds place = true := by
  simp only [containsDirectory, beq_iff_eq, holds_iff, ← find_eq_ok]
  cases tree.find path with
  | error cause => exact ⟨nofun, nofun⟩
  | ok found => simp [Except.toOption]

theorem Extends.containsDirectory (grows : tree.Extends made)
    (found : tree.containsDirectory path = true) : made.containsDirectory path = true := by
  obtain ⟨place, located, held⟩ := containsDirectory_iff.mp found
  exact containsDirectory_iff.mpr ⟨place, grows.locate located, grows.directories place held⟩

/-! ## Targets -/

theorem withoutSlashes_fst (parts : List Bytes) :
    (withoutSlashes parts).1 = parts.rdropWhile (· == []) := rfl

/-- A path is what stands in front of the slashes at its end, and those slashes. -/
theorem exists_slashes (parts : List Bytes) :
    ∃ slashes, parts = (withoutSlashes parts).1 ++ slashes ∧
    (∀ part ∈ slashes, part = []) ∧ ((withoutSlashes parts).2 = false → slashes = []) := by
  have whole : parts = (withoutSlashes parts).1 ++ parts.rtakeWhile (· == []) := by
    rw [withoutSlashes_fst, List.rdropWhile_append_rtakeWhile]
  refine ⟨parts.rtakeWhile (· == []), whole, fun part taken => ?_, fun without => ?_⟩
  · simpa using List.mem_rtakeWhile_imp taken
  · have long : parts.length ≤ (withoutSlashes parts).1.length :=
      Nat.le_of_not_lt (of_decide_eq_false without)
    have lengths := congrArg List.length whole
    rw [List.length_append] at lengths
    rw [lengths] at long
    exact List.length_eq_zero_iff.mp (Nat.le_zero.mp (Nat.le_of_add_le_add_left long))

theorem filled_of_getLast? {parts : List Bytes}
    (last : (withoutSlashes parts).1.getLast? = some name) : name ≠ [] := by
  rintro rfl
  rw [withoutSlashes_fst] at last
  have filled : parts.rdropWhile (· == []) ≠ [] := by
    intro empty
    rw [empty] at last
    cases last
  rw [List.getLast?_eq_some_getLast filled] at last
  exact List.rdropWhile_last_not _ parts filled (by rw [Option.some.inj last]; rfl)

theorem target_eq_some : tree.target path = .ok (some (directory, name)) ↔
    ∃ start, tree.origin path = .ok start ∧
      (withoutSlashes path.parts).1.getLast? = some name ∧
      tree.follow start (withoutSlashes path.parts).1.dropLast = .ok directory ∧
      tree.holds directory = true ∧ name ≠ FilePath.here ∧ name ≠ FilePath.above := by
  rw [target, Except.bind_eq_ok]
  refine exists_congr fun start => and_congr_right fun _ => ?_
  dsimp only
  cases last : (withoutSlashes path.parts).1.getLast? with
  | none => exact ⟨nofun, nofun⟩
  | some given =>
      simp only [Except.bind_eq_ok]
      constructor
      · rintro ⟨middle, followed, ended⟩
        split_ifs at ended with entrance _ special <;> cases ended
        exact ⟨rfl, followed, by simpa using entrance, not_or.mp special⟩
      · rintro ⟨⟨⟩, followed, held, notHere, notAbove⟩
        refine ⟨directory, followed, ?_⟩
        rw [held, if_neg (not_or.mpr ⟨notHere, notAbove⟩)]
        rfl

theorem Extends.target (grows : tree.Extends made)
    (aims : tree.target path = .ok (some (directory, name))) :
    made.target path = .ok (some (directory, name)) := by
  obtain ⟨start, begins, last, followed, held, named⟩ := target_eq_some.mp aims
  exact target_eq_some.mpr ⟨start, (grows.origin path).trans begins, last, grows.follow followed,
    grows.directories directory held, named⟩

theorem follow_append (first second : List Bytes) :
    tree.follow place (first ++ second) =
      tree.follow place first >>= fun middle => tree.follow middle second :=
  List.foldlM_append

theorem follow_slashes {slashes : List Bytes} (empty : ∀ part ∈ slashes, part = [])
    (held : tree.holds place = true) : tree.follow place slashes = .ok place := by
  induction slashes with
  | nil => rfl
  | cons part slashes inductionHypothesis =>
      have stays : tree.enter place part = .ok place :=
        enter_eq_ok.mpr ⟨held, .inl ⟨.inl (empty part List.mem_cons_self), rfl⟩⟩
      rw [follow, List.foldlM_cons, stays]
      exact inductionHypothesis fun other membership => empty other (.tail part membership)

/-- A path with a target first follows the way to the directory, then the name, then the slashes
at its end. -/
theorem locate_eq_of_target (aims : tree.target path = .ok (some (directory, name))) :
    ∃ slashes, (∀ part ∈ slashes, part = []) ∧
      ((withoutSlashes path.parts).2 = false → slashes = []) ∧
      tree.locate path = tree.enter directory name >>= fun place => tree.follow place slashes := by
  obtain ⟨start, begins, last, followed, -⟩ := target_eq_some.mp aims
  obtain ⟨slashes, whole, empty, without⟩ := exists_slashes path.parts
  refine ⟨slashes, empty, without, ?_⟩
  have parts : path.parts = (withoutSlashes path.parts).1.dropLast ++ ([name] ++ slashes) := by
    rw [← List.append_assoc, List.dropLast_append_getLast? name last, ← whole]
  have one : tree.follow directory [name] = tree.enter directory name := by
    rw [follow, List.foldlM_cons]
    cases tree.enter directory name <;> rfl
  rw [locate, begins, parts]
  change tree.follow start _ = _
  rw [follow_append, followed]
  change tree.follow directory _ = _
  rw [follow_append, one]

theorem names_of_target (aims : tree.target path = .ok (some (directory, name)))
    (short : name.length ≤ longestName) : Names name := by
  obtain ⟨-, -, last, -, -, notHere, notAbove⟩ := target_eq_some.mp aims
  exact ⟨filled_of_getLast? last, notHere, notAbove, short⟩

/-- A path leads to its target once something stands there, a directory if slashes follow. -/
theorem locate_of_target (aims : tree.target path = .ok (some (directory, name)))
    (short : name.length ≤ longestName)
    (stands : (tree.at? (directory ++ [name])).isSome = true)
    (ends : (withoutSlashes path.parts).2 = false ∨ tree.holds (directory ++ [name]) = true) :
    tree.locate path = .ok (directory ++ [name]) := by
  obtain ⟨-, -, -, -, held, -⟩ := target_eq_some.mp aims
  obtain ⟨slashes, empty, without, located⟩ := locate_eq_of_target aims
  have entered : tree.enter directory name = .ok (directory ++ [name]) :=
    enter_eq_ok.mpr ⟨held, .inr (.inr ⟨names_of_target aims short, stands, rfl⟩)⟩
  rw [located, entered]
  rcases ends with none | held
  · rw [without none]
    rfl
  · exact follow_slashes empty held

/-- A path that leads somewhere leads through its target. -/
theorem stands_of_locate (aims : tree.target path = .ok (some (directory, name)))
    (located : tree.locate path = .ok place) :
    (tree.at? (directory ++ [name])).isSome = true := by
  obtain ⟨-, -, last, -, -, notHere, notAbove⟩ := target_eq_some.mp aims
  obtain ⟨slashes, -, -, leads⟩ := locate_eq_of_target aims
  obtain ⟨middle, entered, -⟩ := Except.bind_eq_ok.mp (leads.symm.trans located)
  rcases (enter_eq_ok.mp entered).2 with ⟨stays, -⟩ | ⟨upwards, -⟩ | ⟨-, stands, rfl⟩
  · rcases stays with rfl | here
    · exact absurd rfl (filled_of_getLast? last)
    · exact absurd here notHere
  · exact absurd upwards notAbove
  · exact stands

end FileTree

end BaudSwitch
