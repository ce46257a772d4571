import BaudSwitch.CommandLine

/-!
# Lenient reading

Arguments that mean nothing are dropped.  Whenever a reader complains about an unknown argument,
the first argument that fits the complaint is taken out, or the first cluster of letters that
holds the unknown letter loses it, and the reader tries again.  The name of the program is never
touched, and each time the arguments get smaller, so that any reader comes to an end.
-/

namespace BaudSwitch.CommandLine

/-- Whether an argument is the one complained about, alone or with a value attached. -/
def fits (offending : List Char) (argument : Bytes) : Bool :=
  match Utf8.decodeChars? argument with
  | some characters => characters == offending || (offending ++ ['=']).isPrefixOf characters
  | none => false

/-- The list without its first element that passes. -/
def dropFirst? (passes : Bytes → Bool) : List Bytes → Option (List Bytes)
  | [] => none
  | first :: rest =>
      if passes first then some rest else (dropFirst? passes rest).map (first :: ·)

/-- The letters of a cluster that holds a letter, without the first place it stands at. A
cluster begins with one dash only, and is not a single ASCII letter. -/
def withoutLetter? (letter : Char) (argument : Bytes) : Option Bytes :=
  match Utf8.pieces argument with
  | [] => none
  | dash :: letters =>
      if (dash :: letters).all (·.char?.isSome) ∧ dash.char? = some '-' ∧
          1 < (letters.flatMap Utf8.Piece.raw).length ∧
          letters.head?.bind Utf8.Piece.char? ≠ some '-' ∧
          letters.any (·.char? == some letter) then
        some ((letters.eraseP (·.char? == some letter)).flatMap Utf8.Piece.raw)
      else none

/-- The list in which the first cluster that holds a letter has lost it. A cluster that loses
its last letter goes. -/
def dropLetter? (letter : Char) : List Bytes → Option (List Bytes)
  | [] => none
  | first :: rest =>
      match withoutLetter? letter first with
      | some [] => some rest
      | some letters => some ((0x2D :: letters) :: rest)
      | none => (dropLetter? letter rest).map (first :: ·)

/-- The arguments without what a complaint is about. -/
def drop? (offending : List Char) (arguments : List Bytes) : Option (List Bytes) :=
  match dropFirst? (fits offending) arguments with
  | some fewer => some fewer
  | none =>
      match offending with
      | ['-', letter] => if letter = '-' then none else dropLetter? letter arguments
      | _ => none

def retry? : Error → List Bytes → Option (List Bytes)
  | .unknownArgument offending, name :: arguments =>
      (drop? offending.toList arguments).map (name :: ·)
  | _, _ => none

/-- How much can be dropped: the arguments after the name of the program, and their octets. -/
def size (arguments : List Bytes) : Nat :=
  arguments.tail.length + arguments.tail.flatten.length

theorem length_dropFirst?_lt {passes : Bytes → Bool} {arguments fewer : List Bytes}
    (dropped : dropFirst? passes arguments = some fewer) :
    fewer.length + fewer.flatten.length < arguments.length + arguments.flatten.length := by
  induction arguments generalizing fewer with
  | nil => simp [dropFirst?] at dropped
  | cons first rest inductionHypothesis =>
      unfold dropFirst? at dropped
      split at dropped
      · cases dropped
        simp only [List.flatten_cons, List.length_cons, List.length_append]
        omega
      · obtain ⟨shorter, found, rfl⟩ := Option.map_eq_some_iff.mp dropped
        have smaller := inductionHypothesis found
        simp only [List.flatten_cons, List.length_cons, List.length_append]
        omega

theorem length_flatMap_eraseP_lt {passes : Utf8.Piece → Bool} {pieces : List Utf8.Piece}
    (found : pieces.any passes = true) (filled : ∀ piece ∈ pieces, piece.raw ≠ []) :
    ((pieces.eraseP passes).flatMap Utf8.Piece.raw).length <
      (pieces.flatMap Utf8.Piece.raw).length := by
  induction pieces with
  | nil => simp at found
  | cons first rest inductionHypothesis =>
      by_cases passed : passes first = true
      · have nonempty : 0 < first.raw.length :=
          List.length_pos_iff.mpr (filled first (by simp))
        simp only [List.eraseP_cons_of_pos passed, List.flatMap_cons, List.length_append]
        omega
      · have later : rest.any passes = true := by simpa [passed] using found
        have shorter := inductionHypothesis later fun piece membership =>
          filled piece (List.mem_cons_of_mem first membership)
        simp only [List.eraseP_cons_of_neg passed, List.flatMap_cons, List.length_append]
        omega

theorem length_withoutLetter?_lt {letter : Char} {argument letters : Bytes}
    (shortened : withoutLetter? letter argument = some letters) :
    letters.length + 1 < argument.length := by
  unfold withoutLetter? at shortened
  split at shortened
  · cases shortened
  · rename_i dash rest split
    split at shortened
    · rename_i conditions
      cases shortened
      have whole : argument = dash.raw ++ rest.flatMap Utf8.Piece.raw := by
        rw [← Utf8.flatMap_raw_pieces argument, split, List.flatMap_cons]
      have filled : ∀ piece ∈ dash :: rest, piece.raw ≠ [] := fun piece membership =>
        Utf8.raw_ne_nil_of_mem_pieces (split ▸ membership)
      have nonempty : 0 < dash.raw.length :=
        List.length_pos_iff.mpr (filled dash (by simp))
      have shorter := length_flatMap_eraseP_lt conditions.2.2.2.2 fun piece membership =>
        filled piece (List.mem_cons_of_mem dash membership)
      rw [whole, List.length_append]
      omega
    · cases shortened

theorem length_dropLetter?_lt {letter : Char} {arguments fewer : List Bytes}
    (dropped : dropLetter? letter arguments = some fewer) :
    fewer.length + fewer.flatten.length < arguments.length + arguments.flatten.length := by
  induction arguments generalizing fewer with
  | nil => simp [dropLetter?] at dropped
  | cons first rest inductionHypothesis =>
      unfold dropLetter? at dropped
      split at dropped
      · cases dropped
        simp only [List.flatten_cons, List.length_cons, List.length_append]
        omega
      · rename_i letters _ shortened
        cases dropped
        have shorter := length_withoutLetter?_lt shortened
        simp only [List.flatten_cons, List.length_cons, List.length_append]
        omega
      · obtain ⟨shorter, found, rfl⟩ := Option.map_eq_some_iff.mp dropped
        have smaller := inductionHypothesis found
        simp only [List.flatten_cons, List.length_cons, List.length_append]
        omega

theorem size_retry?_lt {cause : Error} {arguments fewer : List Bytes}
    (retried : retry? cause arguments = some fewer) : size fewer < size arguments := by
  unfold retry? at retried
  split at retried
  · obtain ⟨shorter, found, rfl⟩ := Option.map_eq_some_iff.mp retried
    unfold drop? at found
    simp only [size, List.tail_cons]
    split at found
    · rename_i dropped
      cases found
      exact length_dropFirst?_lt dropped
    · split at found
      · split at found
        · cases found
        · exact length_dropLetter?_lt found
      · cases found
  · cases retried

/-- Read arguments with any reader, and drop what it does not know. -/
def lenient {Result : Type} (read : List Bytes → Except Error Result)
    (arguments : List Bytes) : Except Error Result :=
  match read arguments with
  | .ok result => .ok result
  | .error cause =>
      match _retried : retry? cause arguments with
      | some fewer => lenient read fewer
      | none => .error cause
termination_by size arguments
decreasing_by exact size_retry?_lt _retried

/-- Read a command line, and drop what means nothing on it. -/
def parseLenient (arguments : List Bytes) : Except Error Request :=
  lenient parse arguments

end BaudSwitch.CommandLine
