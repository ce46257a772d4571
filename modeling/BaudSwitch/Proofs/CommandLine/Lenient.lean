import BaudSwitch.CommandLine.Lenient
import BaudSwitch.Dialogue
import BaudSwitch.Proofs.CommandLine.Reading

/-!
# Dropping what means nothing

An argument complained about is found again by its text.  So it is found in its own place, unless
an earlier value has the same text in it; then the value suffers, and the argument stays.
-/

namespace BaudSwitch.CommandLine

/-! ## Finding an argument again -/

/-- Whether an argument is the text of a complaint, alone or with a value attached. -/
def Fits (offending argument : List Char) : Prop :=
  argument = offending ∨ offending ++ ['='] <+: argument

instance (offending argument : List Char) : Decidable (Fits offending argument) :=
  inferInstanceAs (Decidable (_ ∨ _))

theorem fits_encodeChars {offending argument : List Char} :
    fits offending (Utf8.encodeChars argument) = true ↔ Fits offending argument := by
  simp [fits, Fits]

theorem Fits.startsWith {offending argument : List Char} (found : Fits offending argument) :
    offending <+: argument := by
  rcases found with rfl | attached
  · exact List.prefix_rfl
  · exact (List.prefix_append offending ['=']).trans attached

theorem Fits.stem {offending argument : List Char} (found : Fits offending argument)
    (free : '=' ∉ offending) : argument.takeWhile (· != '=') = offending := by
  have passes : ∀ character ∈ offending, (character != '=') = true := by
    intro character membership
    rw [bne_iff_ne]
    rintro rfl
    exact free membership
  rcases found with rfl | ⟨value, rfl⟩
  · simpa using @List.takeWhile_append_of_pos _ _ argument [] passes
  · rw [List.append_assoc, List.takeWhile_append_of_pos passes]
    simp

section Dropping

variable {before after arguments : List Bytes} {argument : Bytes}

theorem dropFirst?_append_cons {passes : Bytes → Bool}
    (clear : ∀ other ∈ before, passes other = false) (passed : passes argument = true) :
    dropFirst? passes (before ++ argument :: after) = some (before ++ after) := by
  induction before with
  | nil => simp [dropFirst?, passed]
  | cons first before inductionHypothesis =>
      have later := inductionHypothesis fun other membership =>
        clear other (List.mem_cons_of_mem first membership)
      simp [dropFirst?, clear first List.mem_cons_self, later]

theorem dropFirst?_of_clear {passes : Bytes → Bool}
    (clear : ∀ other ∈ arguments, passes other = false) : dropFirst? passes arguments = none := by
  induction arguments with
  | nil => rfl
  | cons first arguments inductionHypothesis =>
      have later := inductionHypothesis fun other membership =>
        clear other (List.mem_cons_of_mem first membership)
      simp [dropFirst?, clear first List.mem_cons_self, later]

theorem dropLetter?_append_cons {letter : Char} {letters : Bytes}
    (clear : ∀ other ∈ before, withoutLetter? letter other = none)
    (shortened : withoutLetter? letter argument = some letters) (filled : letters ≠ []) :
    dropLetter? letter (before ++ argument :: after) =
      some (before ++ (0x2D :: letters) :: after) := by
  induction before with
  | nil =>
      obtain ⟨first, rest, rfl⟩ := List.exists_cons_of_ne_nil filled
      simp [dropLetter?, shortened]
  | cons first before inductionHypothesis =>
      have later := inductionHypothesis fun other membership =>
        clear other (List.mem_cons_of_mem first membership)
      simp [dropLetter?, clear first List.mem_cons_self, later]

end Dropping

theorem withoutLetter?_encodeChars {letter first : Char} {rest : List Char} :
    withoutLetter? letter (Utf8.encodeChars (first :: rest)) =
      if first = '-' ∧ 1 < (Utf8.encodeChars rest).length ∧ rest.head? ≠ some '-' ∧ letter ∈ rest
      then some (Utf8.encodeChars (rest.erase letter)) else none := by
  have allSpelled : (Utf8.spelled first :: rest.map Utf8.spelled).all (·.char?.isSome) := by
    simp [Utf8.spelled]
  have head : (rest.map Utf8.spelled).head?.bind Utf8.Piece.char? = rest.head? := by
    cases rest <;> rfl
  have holds : (rest.map Utf8.spelled).any (·.char? == some letter) = true ↔ letter ∈ rest := by
    simp [Utf8.spelled]
  have left : ((rest.map Utf8.spelled).eraseP (·.char? == some letter)).flatMap Utf8.Piece.raw =
      Utf8.encodeChars (rest.erase letter) := by
    have same : (fun piece : Utf8.Piece => piece.char? == some letter) ∘ Utf8.spelled =
        fun character => letter == character := by
      funext character
      simp [Utf8.spelled, Bool.beq_comm]
    rw [List.eraseP_map, same, ← List.erase_eq_eraseP, Utf8.flatMap_raw_spelled]
  unfold withoutLetter?
  simp only [Utf8.pieces_encodeChars, List.map_cons, allSpelled, head, holds, left,
    Utf8.flatMap_raw_spelled, true_and]
  simp [Utf8.spelled]

theorem withoutLetter?_of_several {letter : Char} {letters : List Char}
    (several : 1 < letters.length) (undashed : letters.head? ≠ some '-')
    (inside : letter ∈ letters) :
    withoutLetter? letter (Utf8.encodeChars ('-' :: letters)) =
      some (Utf8.encodeChars (letters.erase letter)) := by
  have long := Nat.lt_of_lt_of_le several (Utf8.length_le_length_encodeChars letters)
  rw [withoutLetter?_encodeChars, if_pos ⟨rfl, long, undashed, inside⟩]

/-! ## Values that hold an unknown text -/

namespace Element

/-- A value in which what is unknown in a later element is found first. -/
def Shadows : Element → Element → Prop
  | .separate _ _ value, .word text => Fits text value
  | .joined (.short _) _ value, .letters cluster =>
      1 < cluster.length ∧ ∃ letter ∈ cluster, short? letter = none ∧ letter ∈ value
  | _, _ => False

-- The letters are looked at one by one, not all characters there are.
instance : (earlier later : Element) → Decidable (earlier.Shadows later)
  | .separate _ _ value, .word text => inferInstanceAs (Decidable (Fits text value))
  | .joined (.short _) _ value, .letters cluster =>
      haveI := List.decidableBEx (fun letter => short? letter = none ∧ letter ∈ value) cluster
      inferInstanceAs (Decidable (1 < cluster.length ∧
        ∃ letter ∈ cluster, short? letter = none ∧ letter ∈ value))
  | .separate .., .letters _ | .separate .., .flag .. | .separate .., .separate ..
  | .separate .., .joined .. | .separate .., .stray .. => .isFalse id
  | .joined (.short _) .., .flag .. | .joined (.short _) .., .separate ..
  | .joined (.short _) .., .joined .. | .joined (.short _) .., .word _
  | .joined (.short _) .., .stray .. => .isFalse id
  | .joined (.long _) .., _ | .letters _, _ | .flag .., _ | .word _, _ | .stray .., _ =>
      .isFalse id

variable {element : Element} {argument : List Char}

/-- A cluster with a letter less is shadowed by no more than before. -/
theorem shadows_of_erase {cluster : List Char} {letter : Char}
    (shadows : element.Shadows (.letters (cluster.erase letter))) :
    element.Shadows (.letters cluster) := by
  match element, shadows with
  | .joined (.short _) _ _, ⟨several, other, inside, unknown, found⟩ =>
      exact ⟨Nat.lt_of_lt_of_le several List.erase_sublist.length_le, other,
        List.mem_of_mem_erase inside, unknown, found⟩

/-- What the arguments of an element look like. -/
inductive Form (element : Element) : List Char → Prop
  | cluster {cluster : List Char} (same : element = .letters cluster) :
      Form element ('-' :: cluster)
  | name {rest : List Char}
      (declared : element.complaint? = none →
        long? (String.ofList (rest.takeWhile (· != '='))) ≠ none) :
      Form element ('-' :: '-' :: rest)
  | option {letter : Char} {rest : List Char} (declared : short? letter ≠ none)
      (attached : rest = [] ∨ ∃ option, element = .joined (.short letter) option rest) :
      Form element ('-' :: letter :: rest)
  | value {text : List Char} (undashed : text.head? ≠ some '-')
      (alone : element = .word text ∨ ∃ spelling option, element = .separate spelling option text) :
      Form element text

theorem takeWhile_of_free {name : List Char} (free : '=' ∉ name) :
    name.takeWhile (· != '=') = name :=
  Fits.stem (.inl rfl) free

theorem form_of_given (valid : element.Valid) (membership : argument ∈ element.given) :
    Form element argument := by
  cases element with
  | letters cluster =>
      cases List.mem_singleton.mp membership
      exact .cluster rfl
  | flag name raised =>
      cases List.mem_singleton.mp membership
      refine .name fun _ => ?_
      rw [takeWhile_of_free (long?_name valid).2, show long? _ = _ from valid]
      exact Option.some_ne_none _
  | separate spelling option value =>
      have declared : spelling.opt? ≠ none := by simp [valid.1]
      rcases List.mem_cons.mp membership with rfl | membership
      · cases spelling with
        | short letter => exact .option declared (.inl rfl)
        | long name =>
            refine .name fun _ => ?_
            rwa [takeWhile_of_free (long?_name valid.1).2]
      · cases List.mem_singleton.mp membership
        exact .value valid.2.2.1 (.inr ⟨spelling, option, rfl⟩)
  | joined spelling option value =>
      cases List.mem_singleton.mp membership
      have declared : spelling.opt? ≠ none := by simp [valid.1]
      cases spelling with
      | short letter => exact .option declared (.inr ⟨option, rfl⟩)
      | long name =>
          refine .name fun _ => ?_
          have stem : (name ++ '=' :: value).takeWhile (· != '=') = name :=
            Fits.stem (.inr ⟨value, by simp⟩) (long?_name valid.1).2
          show long? (String.ofList ((name ++ '=' :: value).takeWhile _)) ≠ none
          rwa [stem]
  | word text =>
      cases List.mem_singleton.mp membership
      exact .value valid.2 (.inl rfl)
  | stray name value =>
      cases List.mem_singleton.mp membership
      exact .name nofun

/-- A word is found only in its own place, or in a value behind an option. -/
theorem separate_of_fits {text : List Char} (form : element.Form argument)
    (silent : element.complaint? = none) (undashed : text ≠ [] ∧ text.head? ≠ some '-')
    (found : Fits text argument) :
    ∃ spelling option, element = .separate spelling option argument := by
  have dashed : argument.head? ≠ some '-' := by
    obtain ⟨first, rest, rfl⟩ := List.exists_cons_of_ne_nil undashed.1
    obtain ⟨behind, rfl⟩ := found.startsWith
    exact undashed.2
  cases form with
  | cluster same => exact absurd rfl dashed
  | name declared => exact absurd rfl dashed
  | option declared attached => exact absurd rfl dashed
  | value _ alone =>
      rcases alone with rfl | separate
      · cases silent
      · exact separate

/-- A name that means nothing is not found in a known element. -/
theorem not_fits_name {name : List Char} (valid : element.Valid) (form : element.Form argument)
    (silent : element.complaint? = none) (free : '=' ∉ name)
    (unknown : long? (String.ofList name) = none) : ¬ Fits ('-' :: '-' :: name) argument := by
  intro found
  have start := found.startsWith
  cases form with
  | cluster same =>
      subst same
      obtain ⟨rest, same⟩ := start
      cases same
      exact (valid.2 '-' List.mem_cons_self).1 rfl
  | name declared =>
      have stem := found.stem (by simp [free])
      simp only [List.takeWhile_cons] at stem
      cases stem
      exact declared silent unknown
  | option declared attached =>
      obtain ⟨rest, same⟩ := start
      cases same
      exact declared rfl
  | value undashed alone =>
      obtain ⟨rest, rfl⟩ := start
      exact undashed rfl

section Letters

variable {letter : Char} (unknown : short? letter = none)
include unknown

/-- A letter that means nothing is found as an argument only where it stands alone. -/
theorem letters_of_fits (valid : element.Valid) (form : element.Form argument)
    (different : letter ≠ '-') (found : Fits ['-', letter] argument) :
    element = .letters [letter] := by
  have start := found.startsWith
  cases form with
  | cluster same =>
      subst same
      rcases found with same | ⟨rest, same⟩
      · cases same
        rfl
      · cases same
        exact absurd rfl (valid.2 '=' (by simp)).2.1
  | name declared =>
      obtain ⟨rest, same⟩ := start
      cases same
      exact absurd rfl different
  | option declared attached =>
      obtain ⟨rest, same⟩ := start
      cases same
      exact absurd unknown declared
  | value undashed alone =>
      obtain ⟨rest, rfl⟩ := start
      exact absurd rfl undashed

/-- A letter that means nothing is found inside an argument only in values attached to a letter. -/
theorem withoutLetter?_eq_none (form : element.Form argument) (silent : element.complaint? = none)
    (unshadowed : ∀ mark option value, element = .joined (.short mark) option value →
      letter ∉ value) :
    withoutLetter? letter (Utf8.encodeChars argument) = none := by
  cases form with
  | cluster same =>
      subst same
      have absent := List.find?_eq_none.mp (Option.map_eq_none_iff.mp silent) letter
      rw [withoutLetter?_encodeChars, if_neg]
      rintro ⟨-, -, -, inside⟩
      exact absent inside (by simp [unknown])
  | name declared =>
      rw [withoutLetter?_encodeChars, if_neg]
      rintro ⟨-, -, undashed, -⟩
      exact undashed rfl
  | @option mark rest declared attached =>
      rw [withoutLetter?_encodeChars, if_neg]
      rintro ⟨-, -, -, inside⟩
      rcases List.mem_cons.mp inside with rfl | inside
      · exact declared unknown
      · rcases attached with rfl | ⟨option, same⟩
        · cases inside
        · exact unshadowed mark option rest same inside
  | value undashed alone =>
      cases argument with
      | nil => rfl
      | cons first rest =>
          rw [withoutLetter?_encodeChars, if_neg]
          rintro ⟨rfl, -⟩
          exact undashed rfl

end Letters

end Element

/-! ## Lines in which every complaint finds its own argument -/

/-- No value in front of an unknown text holds that text. -/
structure Unambiguous (line : List Element) : Prop where
  valid : ∀ element ∈ line, element.Valid
  unshadowed : line.Pairwise fun earlier later => ¬ earlier.Shadows later

section Lines

variable {line fewer before after : List Element} {element : Element} {offending : List Char}

theorem written_append_cons :
    written (before ++ element :: after) =
      written before ++ (element.written ++ written after) := by
  simp [written]

theorem exists_of_mem_written {argument : Bytes} (membership : argument ∈ written line) :
    ∃ element ∈ line, ∃ text ∈ element.given, Utf8.encodeChars text = argument := by
  obtain ⟨element, inside, membership⟩ := List.mem_flatMap.mp membership
  exact ⟨element, inside, List.mem_map.mp membership⟩

theorem fits_eq_false
    (clear : ∀ element ∈ line, ∀ text ∈ element.given, ¬ Fits offending text) :
    ∀ argument ∈ written line, fits offending argument = false := by
  intro argument membership
  obtain ⟨element, inside, text, given, rfl⟩ := exists_of_mem_written membership
  exact Bool.eq_false_iff.mpr (mt fits_encodeChars.mp (clear element inside text given))

theorem dropFirst?_written {text : List Char} (alone : element.given = [text])
    (found : Fits offending text)
    (clear : ∀ element ∈ before, ∀ text ∈ element.given, ¬ Fits offending text) :
    dropFirst? (fits offending) (written (before ++ element :: after)) =
      some (written (before ++ after)) := by
  rw [written_append_cons, Element.written, alone, List.map_singleton, List.singleton_append,
    dropFirst?_append_cons (fits_eq_false clear) (fits_encodeChars.mpr found)]
  simp [written]

theorem Unambiguous.sublist (unambiguous : Unambiguous line) (kept : fewer.Sublist line) :
    Unambiguous fewer :=
  ⟨fun element membership => unambiguous.valid element (kept.subset membership),
    unambiguous.unshadowed.sublist kept⟩

theorem Unambiguous.without (unambiguous : Unambiguous (before ++ element :: after)) :
    Unambiguous (before ++ after) :=
  unambiguous.sublist ((List.Sublist.refl before).append (List.sublist_cons_self element after))

theorem Unambiguous.unshadowed_of_mem (unambiguous : Unambiguous (before ++ element :: after)) :
    ∀ earlier ∈ before, ¬ earlier.Shadows element :=
  fun earlier membership => (List.pairwise_append.mp unambiguous.unshadowed).2.2 earlier membership
    element List.mem_cons_self

theorem Unambiguous.erase {cluster : List Char} {letter : Char}
    (unambiguous : Unambiguous (before ++ .letters cluster :: after))
    (filled : cluster.erase letter ≠ []) :
    Unambiguous (before ++ .letters (cluster.erase letter) :: after) := by
  have fewerLetters : ∀ other ∈ cluster.erase letter, other ∈ cluster :=
    fun other membership => List.mem_of_mem_erase membership
  constructor
  · intro element membership
    rcases List.mem_append.mp membership with membership | membership
    · exact unambiguous.valid element (List.mem_append_left _ membership)
    · rcases List.mem_cons.mp membership with rfl | membership
      · have valid := unambiguous.valid (.letters cluster) (by simp)
        exact ⟨filled, fun other inside => valid.2 other (fewerLetters other inside)⟩
      · exact unambiguous.valid element (by simp [membership])
  · obtain ⟨front, back, across⟩ := List.pairwise_append.mp unambiguous.unshadowed
    obtain ⟨-, behind⟩ := List.pairwise_cons.mp back
    refine List.pairwise_append.mpr ⟨front, List.pairwise_cons.mpr ⟨nofun, behind⟩, ?_⟩
    intro earlier membership later found
    rcases List.mem_cons.mp found with rfl | found
    · intro shadows
      exact across earlier membership (.letters cluster) List.mem_cons_self
        (Element.shadows_of_erase shadows)
    · exact across earlier membership later (List.mem_cons_of_mem _ found)

theorem known_letters_erase {cluster : List Char} {letter : Char} (unknown : short? letter = none) :
    (Element.letters (cluster.erase letter)).known = (Element.letters cluster).known := by
  have same : (cluster.erase letter).filter (fun letter => (short? letter).isSome) =
      cluster.filter fun letter => (short? letter).isSome := by
    rw [← List.erase_filter, List.erase_of_not_mem]
    simp [unknown]
  simp only [Element.known, same]

/-- A complaint drops one thing that means nothing, and leaves what is known as it was. -/
structure Drops (offending : List Char) (line fewer : List Element) : Prop where
  dropped : drop? offending (written line) = some (written fewer)
  unambiguous : Unambiguous fewer
  known : fewer.flatMap Element.known = line.flatMap Element.known

theorem drops_argument (unambiguous : Unambiguous (before ++ element :: after)) {text : List Char}
    (alone : element.given = [text]) (nothing : element.known = []) (found : Fits offending text)
    (clear : ∀ element ∈ before, ∀ text ∈ element.given, ¬ Fits offending text) :
    Drops offending (before ++ element :: after) (before ++ after) where
  dropped := by simp only [drop?, dropFirst?_written alone found clear]
  unambiguous := unambiguous.without
  known := by simp [nothing]

theorem drops_word {text : List Char} (unambiguous : Unambiguous (before ++ .word text :: after))
    (silent : ∀ element ∈ before, element.complaint? = none) :
    Drops text (before ++ .word text :: after) (before ++ after) := by
  apply drops_argument unambiguous rfl rfl (.inl rfl)
  intro element membership argument given found
  have form := Element.form_of_given
    (unambiguous.valid element (List.mem_append_left _ membership)) given
  obtain ⟨spelling, option, rfl⟩ := Element.separate_of_fits form (silent element membership)
    (unambiguous.valid (.word text) (by simp)) found
  exact unambiguous.unshadowed_of_mem _ membership found

theorem drops_stray {name : List Char} {value : Option (List Char)}
    (unambiguous : Unambiguous (before ++ .stray name value :: after))
    (silent : ∀ element ∈ before, element.complaint? = none) :
    Drops ('-' :: '-' :: name) (before ++ .stray name value :: after) (before ++ after) := by
  obtain ⟨-, free, undeclared⟩ := unambiguous.valid (.stray name value) (by simp)
  have found : Fits ('-' :: '-' :: name) ('-' :: '-' :: name ++ value.elim [] ('=' :: ·)) := by
    cases value with
    | none => exact .inl (by simp)
    | some value => exact .inr ⟨value, by simp⟩
  apply drops_argument unambiguous rfl rfl found
  intro element membership argument given
  have valid := unambiguous.valid element (List.mem_append_left _ membership)
  exact Element.not_fits_name valid (Element.form_of_given valid given)
    (silent element membership) free undeclared

section Letter

variable {letter : Char} (unknown : short? letter = none) (different : letter ≠ '-')
include unknown different

theorem not_fits_letter (valid : ∀ element ∈ line, element.Valid)
    (absent : .letters [letter] ∉ line) :
    ∀ element ∈ line, ∀ text ∈ element.given, ¬ Fits ['-', letter] text := by
  intro element membership text given found
  have form := Element.form_of_given (valid element membership) given
  have alone := Element.letters_of_fits unknown (valid element membership) form different found
  exact absent (alone ▸ membership)

/-- A letter that nowhere stands alone is looked for inside the arguments. -/
theorem drop?_of_absent (valid : ∀ element ∈ line, element.Valid)
    (absent : .letters [letter] ∉ line) :
    drop? ['-', letter] (written line) = dropLetter? letter (written line) := by
  have notFound := dropFirst?_of_clear
    (fits_eq_false (not_fits_letter unknown different valid absent))
  simp only [drop?, notFound, if_neg different]

end Letter

theorem drops_letter {cluster : List Char} {letter : Char} (unknown : short? letter = none)
    (inside : letter ∈ cluster) (unambiguous : Unambiguous (before ++ .letters cluster :: after))
    (silent : ∀ element ∈ before, element.complaint? = none) :
    ∃ fewer, Drops ['-', letter] (before ++ .letters cluster :: after) fewer := by
  have plain := unambiguous.valid (.letters cluster) (by simp)
  have different : letter ≠ '-' := (plain.2 letter inside).1
  by_cases lone : .letters [letter] ∈ before ++ .letters cluster :: after
  · -- An argument that is the letter alone goes first, wherever it stands.
    obtain ⟨front, back, split, absent⟩ := List.eq_append_cons_of_mem lone
    rw [split] at unambiguous ⊢
    have validFront : ∀ element ∈ front, element.Valid :=
      fun element membership => unambiguous.valid element (List.mem_append_left _ membership)
    have clear := not_fits_letter unknown different validFront absent
    exact ⟨_, drops_argument unambiguous rfl (by simp [Element.known, unknown]) (.inl rfl) clear⟩
  · -- No value in front holds the letter, so that the cluster itself loses it.
    have several : 1 < cluster.length := by
      apply Nat.lt_of_not_le
      intro few
      obtain ⟨only, rfl⟩ := List.length_eq_one_iff.mp
        (Nat.le_antisymm few (List.length_pos_of_mem inside))
      cases List.mem_singleton.mp inside
      exact lone (by simp)
    have filled : cluster.erase letter ≠ [] := by
      rw [← List.length_pos_iff, List.length_erase_of_mem inside]
      omega
    have clearBefore : ∀ argument ∈ written before, withoutLetter? letter argument = none := by
      intro argument membership
      obtain ⟨element, early, text, given, rfl⟩ := exists_of_mem_written membership
      have valid := unambiguous.valid element (List.mem_append_left _ early)
      apply Element.withoutLetter?_eq_none unknown (Element.form_of_given valid given)
        (silent element early)
      rintro mark option value rfl found
      exact unambiguous.unshadowed_of_mem _ early ⟨several, letter, inside, unknown, found⟩
    have shortened := withoutLetter?_of_several several (undashed_of_plain plain.2) inside
    refine ⟨before ++ .letters (cluster.erase letter) :: after, ?_, unambiguous.erase filled, ?_⟩
    · rw [drop?_of_absent unknown different unambiguous.valid lone, written_append_cons,
        written_append_cons]
      exact dropLetter?_append_cons clearBefore shortened (mt Utf8.encodeChars_eq_nil_iff.mp filled)
    · simp [known_letters_erase unknown]

theorem exists_drops (unambiguous : Unambiguous (before ++ element :: after))
    (silent : ∀ element ∈ before, element.complaint? = none)
    (unknown : element.complaint? = some offending) :
    ∃ fewer, Drops offending (before ++ element :: after) fewer := by
  cases element with
  | letters cluster =>
      obtain ⟨letter, found, rfl⟩ := Option.map_eq_some_iff.mp unknown
      have undeclared : short? letter = none := by simpa using List.find?_some found
      exact drops_letter undeclared (List.mem_of_find?_eq_some found) unambiguous silent
  | word text =>
      cases unknown
      exact ⟨_, drops_word unambiguous silent⟩
  | stray name value =>
      cases unknown
      exact ⟨_, drops_stray unambiguous silent⟩
  | flag name raised => cases unknown
  | separate spelling option value => cases unknown
  | joined spelling option value => cases unknown

end Lines

/-! ## Reading until nothing is left to drop -/

section Reader

variable {Result : Type} {read : List Bytes → Except Error Result} {arguments fewer : List Bytes}
  {result : Result} {cause : Error}

theorem lenient_of_ok (done : read arguments = .ok result) :
    lenient read arguments = .ok result := by
  rw [lenient, done]

theorem lenient_of_retried (failed : read arguments = .error cause)
    (retried : retry? cause arguments = some fewer) :
    lenient read arguments = lenient read fewer := by
  rw [lenient, failed]
  dsimp only
  split
  · rename_i other found
    cases found.symm.trans retried
    rfl
  · rename_i stuck
    cases stuck.symm.trans retried

theorem lenient_of_stuck (failed : read arguments = .error cause)
    (stuck : retry? cause arguments = none) : lenient read arguments = .error cause := by
  rw [lenient, failed]
  dsimp only
  split
  · rename_i other found
    cases found.symm.trans stuck
  · rfl

/-- Where every complaint can be met until the reader is content, the reader gets there. -/
theorem lenient_of_invariant (Invariant : List Bytes → Prop)
    (step : ∀ arguments, Invariant arguments → read arguments = .ok result ∨
      ∃ cause fewer, read arguments = .error cause ∧ retry? cause arguments = some fewer ∧
        Invariant fewer)
    (holds : Invariant arguments) : lenient read arguments = .ok result := by
  -- Every retry is on smaller arguments, which is why the reader comes to an end.
  induction measured : size arguments using Nat.strongRecOn generalizing arguments with
  | ind bound inductionHypothesis =>
      rcases step arguments holds with done | ⟨cause, fewer, failed, retried, kept⟩
      · exact lenient_of_ok done
      · rw [lenient_of_retried failed retried]
        exact inductionHypothesis (size fewer) (measured ▸ size_retry?_lt retried) kept rfl

end Reader

section Lines

variable {line : List Element}

/-- A reading either ends or drops one thing that means nothing. -/
theorem parse_or_drops (program : Bytes) (unambiguous : Unambiguous line) :
    parse (program :: written line) = .ok (line.foldl Request.add {}) ∨
      ∃ cause fewer, parse (program :: written line) = .error cause ∧
        retry? cause (program :: written line) = some (program :: written fewer) ∧
        Unambiguous fewer ∧ fewer.flatMap Element.known = line.flatMap Element.known := by
  cases first : line.find? fun element => element.complaint?.isSome with
  | none =>
      have silent : ∀ element ∈ line, element.complaint? = none := by
        simpa using List.find?_eq_none.mp first
      exact .inl (parse_of_known program unambiguous.valid silent)
  | some element =>
      obtain ⟨complains, before, after, rfl, silent⟩ := List.find?_eq_some_iff_append.mp first
      obtain ⟨offending, unknown⟩ := Option.isSome_iff_exists.mp complains
      have silent : ∀ element ∈ before, element.complaint? = none := by simpa using silent
      obtain ⟨fewer, drops⟩ := exists_drops unambiguous silent unknown
      have failed : parse (program :: written (before ++ element :: after)) =
          .error (.unknownArgument (String.ofList offending)) :=
        parse_of_unknown program
          (fun other membership => unambiguous.valid other (List.mem_append_left _ membership))
          silent (unambiguous.valid element (by simp)) unknown
      refine .inr ⟨_, fewer, failed, ?_, drops.unambiguous, drops.known⟩
      simp only [String.toList_ofList, drops.dropped, Option.map_some, retry?]

/-- Where no value holds an unknown text that follows it, what means nothing on a command line
changes nothing: the line asks for what the known elements ask for, and is read as they alone. -/
theorem parseLenient_ignores_unknown (program : Bytes) (unambiguous : Unambiguous line) :
    parseLenient (program :: written (line.flatMap Element.known)) =
      .ok (line.foldl Request.add {}) ∧
    parseLenient (program :: written line) = .ok (line.foldl Request.add {}) := by
  have known := valid_flatMap_known unambiguous.valid
  constructor
  · rw [← foldl_flatMap_known]
    exact lenient_of_ok (parse_of_known program
      (fun element membership => (known element membership).1)
      fun element membership => (known element membership).2)
  · apply lenient_of_invariant fun arguments => ∃ rest, arguments = program :: written rest ∧
      Unambiguous rest ∧ rest.flatMap Element.known = line.flatMap Element.known
    · rintro arguments ⟨rest, rfl, unambiguous, same⟩
      rcases parse_or_drops program unambiguous with
        done | ⟨cause, fewer, failed, retried, still, sameKnown⟩
      · rw [← foldl_flatMap_known, same, foldl_flatMap_known] at done
        exact .inl done
      · exact .inr ⟨cause, _, failed, retried, fewer, rfl, still, sameKnown.trans same⟩
    · exact ⟨line, rfl, unambiguous, rfl⟩

end Lines

theorem parseLenient_ignores_unknown_noisy :
    let line : List Element :=
      [.letters ['x', 'v'], .separate (.short 'b') .baud "460800".toList,
        .stray "fast".toList (some "9".toList), .word "foo".toList,
        .joined (.short 'c') .port "/dev/ttyUSB0".toList, .letters ['q']]
    Unambiguous line ∧
      parseLenient (Bytes.ascii "gdb-baud" :: written line) =
        .ok { verbose := true, baud := some 460800, port := some "/dev/ttyUSB0" } := by
  intro line
  have unambiguous : Unambiguous line := ⟨by decide +kernel, by decide +kernel⟩
  have asked : line.foldl Request.add {} =
      { verbose := true, baud := some 460800, port := some "/dev/ttyUSB0" } := by
    decide +kernel
  rw [← asked]
  exact ⟨unambiguous,
    (parseLenient_ignores_unknown (Bytes.ascii "gdb-baud") unambiguous).2⟩

/-- A value that holds a letter which means nothing in a cluster behind it loses that letter, and
the cluster keeps it. -/
theorem parseLenient_of_shadowed (program : Bytes) {mark letter : Char} {option : Valued}
    {value cluster : List Char}
    (validValue : (Element.joined (.short mark) option value).Valid)
    (validCluster : (Element.letters cluster).Valid) (several : 1 < cluster.length)
    (unknown : (Element.letters cluster).complaint? = some ['-', letter])
    (held : letter ∈ value) :
    parseLenient (program :: written [.joined (.short mark) option value, .letters cluster]) =
      parseLenient (program ::
        written [.joined (.short mark) option (value.erase letter), .letters cluster]) := by
  obtain ⟨first, found, same⟩ := Option.map_eq_some_iff.mp unknown
  cases same
  have undeclared : short? letter = none := by simpa using List.find?_some found
  have different : letter ≠ '-' :=
    (validCluster.2 letter (List.mem_of_find?_eq_some found)).1
  have markKept : mark ≠ letter := by
    rintro rfl
    cases undeclared.symm.trans validValue.1
  have markUndashed : (mark :: value).head? ≠ some '-' := by
    rintro same
    cases same
    cases validValue.1
  have valid : ∀ element ∈ [Element.joined (.short mark) option value, .letters cluster],
      element.Valid := by
    simp [validValue, validCluster]
  have absent : Element.letters [letter] ∉
      [Element.joined (.short mark) option value, .letters cluster] := by
    simp
    rintro rfl
    exact absurd several (by simp)
  have longer : 1 < (mark :: value).length :=
    Nat.succ_lt_succ (List.length_pos_iff.mpr validValue.2.1)
  have shortened := withoutLetter?_of_several longer markUndashed (List.mem_cons_of_mem mark held)
  rw [List.erase_cons_tail (by simpa using markKept)] at shortened
  have failed : parse (program :: written
      [.joined (.short mark) option value, .letters cluster]) =
      .error (.unknownArgument (String.ofList ['-', letter])) :=
    @parse_of_unknown [.joined (.short mark) option value] [] program (.letters cluster) _
      (by simpa using validValue) (by simp [Element.complaint?]) validCluster unknown
  apply lenient_of_retried failed
  simp only [String.toList_ofList, retry?]
  rw [drop?_of_absent undeclared different valid absent]
  have dropped := @dropLetter?_append_cons [] (written [.letters cluster]) _ _ _ (by simp) shortened
    (by simp)
  exact congrArg (Option.map (program :: ·)) dropped

/-- A letter that means nothing is taken out of the value in front of it first. -/
theorem parseLenient_cuts_value :
    let line : List Element :=
      [.joined (.short 'c') .port "/dev/ttyUSB0".toList, .letters ['y', 'v']]
    (∀ element ∈ line, element.Valid) ∧
      parseLenient (Bytes.ascii "gdb-baud" :: written (line.flatMap Element.known)) =
        .ok { verbose := true, port := some "/dev/ttyUSB0" } ∧
      parseLenient (Bytes.ascii "gdb-baud" :: written line) =
        .ok { verbose := true, port := some "/dev/ttUSB0" } := by
  intro line
  have complaint : parse (Bytes.ascii "gdb-baud" :: written line) =
      .error (.unknownArgument "-y") := by
    decide +kernel
  have sameComplaint :
      parse [Bytes.ascii "gdb-baud", Bytes.ascii "-c/dev/ttUSB0", Bytes.ascii "-yv"] =
        .error (.unknownArgument "-y") := by
    decide +kernel
  refine ⟨by decide +kernel, lenient_of_ok (by decide +kernel), ?_⟩
  calc parseLenient (Bytes.ascii "gdb-baud" :: written line)
      = lenient parse [Bytes.ascii "gdb-baud", Bytes.ascii "-c/dev/ttUSB0", Bytes.ascii "-yv"] :=
        lenient_of_retried complaint (by decide +kernel)
    _ = lenient parse [Bytes.ascii "gdb-baud", Bytes.ascii "-c/dev/ttUSB0", Bytes.ascii "-v"] :=
        lenient_of_retried sameComplaint (by decide +kernel)
    _ = .ok { verbose := true, port := some "/dev/ttUSB0" } := lenient_of_ok (by decide +kernel)

end BaudSwitch.CommandLine
