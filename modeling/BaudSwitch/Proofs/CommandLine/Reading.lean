import BaudSwitch.Proofs.CommandLine.Elements

/-!
# Reading what is written

Every known element is read whatever was read before it, and what is not known is complained
about.  So a line is read to its end, or up to the first element that is not known throughout.
-/

namespace BaudSwitch.CommandLine

theorem encodeChars_dash (text : List Char) :
    Utf8.encodeChars ('-' :: text) = 0x2D :: Utf8.encodeChars text := rfl

theorem encodeChars_equals (text : List Char) :
    Utf8.encodeChars ('=' :: text) = 0x3D :: Utf8.encodeChars text := rfl

theorem encodeChars_head?_ne_dash {text : List Char} (undashed : text.head? ≠ some '-') :
    (Utf8.encodeChars text).head? ≠ some 0x2D :=
  Utf8.head?_encodeChars_ne (by decide) undashed

theorem encodeChars_head?_ne_equals {text : List Char} (different : text.head? ≠ some '=') :
    (Utf8.encodeChars text).head? ≠ some 0x3D :=
  Utf8.head?_encodeChars_ne (by decide) different

/-! ## Values -/

theorem signed?_of_digits {text : List Char} (filled : text ≠ [])
    (digits : text.all Char.isDigit) :
    signed? text = some (Nat.ofDigitChars 10 text 0 : Int) := by
  have value : text.foldl (fun number digit => number * 10 + (digit.toNat - 48)) 0 =
      Nat.ofDigitChars 10 text 0 := by
    simp only [Nat.ofDigitChars, Nat.mul_comm 10]
    rfl
  have unsigned {sign : Char} (signs : ¬ sign.isDigit) {rest : List Char}
      (signed : text = sign :: rest) : False :=
    signs (List.all_eq_true.mp digits sign (signed ▸ List.mem_cons_self))
  unfold signed?
  split
  · exact (unsigned (by decide) rfl).elim
  · exact (unsigned (by decide) rfl).elim
  · simp only [ne_eq, filled, not_false_eq_true, digits, and_self, if_true, value]
    rfl

theorem baud?_of_spellsRate {text : List Char} (filled : text ≠ []) (rate : SpellsRate text) :
    baud? text = some (UInt32.ofNat (Nat.ofDigitChars 10 text 0)) := by
  obtain ⟨digits, least, most⟩ := rate
  simp only [baud?, signed?_of_digits filled digits]
  rw [if_pos ⟨by exact_mod_cast least, by exact_mod_cast most⟩]
  rfl

/-- Every option takes its acceptable values. -/
theorem Acceptable.set {option : Valued} {value : List Char} (acceptable : Acceptable option value)
    (request : Request) :
    request.set option (Utf8.encodeChars value) = .ok (request.put value option) := by
  obtain ⟨filled, -, -, rate⟩ := acceptable
  have octetsFilled : Utf8.encodeChars value ≠ [] := by simpa using filled
  cases option with
  | settingsFile =>
      rw [Request.set, path, if_neg octetsFilled]
      rfl
  | writeTo =>
      rw [Request.set, path, if_neg octetsFilled]
      rfl
  | port => simp only [Request.set, Utf8.decode?_encodeChars, Request.put]
  | baud =>
      simp only [Request.set, Utf8.decodeChars?_encodeChars, baud?_of_spellsRate filled (rate rfl),
        Request.put]

/-! ## Reading settled -/

/-- Nothing is owed, and the options so far make up a request. -/
structure Reads (reading : Reading) (request : Request) : Prop where
  optionsOn : reading.wordsOnly = false
  complete : ∀ option, reading.pending ≠ some (option, none)
  resolved : reading.resolve = .ok { request }

section Reading

variable {reading : Reading} {request : Request}

theorem reads_settled (request : Request) : Reads { request } request :=
  ⟨rfl, by simp, rfl⟩

theorem Reads.raise (reads : Reads reading request) (flag : Flag) :
    reading.raise flag = .ok { request := request.raise flag } := by
  rw [Reading.raise, reads.resolved]
  rfl

theorem Reads.await (reads : Reads reading request) (option : Valued) :
    reading.await option = .ok { request, pending := some (option, none) } := by
  rw [Reading.await, reads.resolved]
  rfl

theorem Reads.attach {option : Valued} {value : Bytes} {after : Request}
    (reads : Reads reading request) (taken : request.set option value = .ok after) :
    reading.attach option value = .ok { request := after } := by
  rw [Reading.attach, reads.resolved]
  show (request.set option value).bind _ = _
  rw [taken]
  rfl

/-! ## One argument -/

theorem take_dash (optionsOn : reading.wordsOnly = false) {text : List Char} (filled : text ≠ [])
    (undashed : text.head? ≠ some '-') :
    reading.take (Utf8.encodeChars ('-' :: text)) = reading.letters (text.map Utf8.spelled) := by
  have different := encodeChars_head?_ne_dash undashed
  obtain ⟨first, rest, split⟩ := List.exists_cons_of_ne_nil
    (mt Utf8.encodeChars_eq_nil_iff.mp filled)
  rw [encodeChars_dash, ← Utf8.pieces_encodeChars]
  rw [split] at different ⊢
  have single : first ≠ 0x2D := fun same => different (by rw [same, List.head?_cons])
  simp [Reading.take, optionsOn, single]

theorem take_dashes (optionsOn : reading.wordsOnly = false) {text : List Char}
    (filled : text ≠ []) :
    reading.take (Utf8.encodeChars ('-' :: '-' :: text)) =
      reading.long (Utf8.encodeChars text) := by
  obtain ⟨first, rest, split⟩ := List.exists_cons_of_ne_nil
    (mt Utf8.encodeChars_eq_nil_iff.mp filled)
  rw [encodeChars_dash, encodeChars_dash, split]
  simp [Reading.take, optionsOn]

theorem take_word (optionsOn : reading.wordsOnly = false) {word : Bytes}
    (undashed : word.head? ≠ some 0x2D) :
    reading.take word = match reading.pending with
      | some (option, none) => .ok { reading with pending := some (option, some word) }
      | _ => .error (.unknownArgument (Utf8.decodeLossy word)) := by
  unfold Reading.take
  rw [if_neg (by simp [optionsOn])]
  split
  · exact absurd rfl undashed
  · exact absurd rfl undashed
  · exact absurd rfl undashed
  · rfl

/-! ## Letters -/

theorem letters_flag {letter : Char} {flag : Flag} (known : short? letter = some (.flag flag))
    (rest : List Utf8.Piece) :
    reading.letters (Utf8.spelled letter :: rest) =
      (reading.raise flag).bind fun raised => raised.letters rest := by
  simp only [Reading.letters, Utf8.spelled, known]
  rfl

theorem letters_unknown {letter : Char} (unknown : short? letter = none)
    (rest : List Utf8.Piece) :
    reading.letters (Utf8.spelled letter :: rest) =
      .error (.unknownArgument (String.ofList ['-', letter])) := by
  simp only [Reading.letters, Utf8.spelled, unknown]

theorem letters_await {letter : Char} {option : Valued}
    (known : short? letter = some (.valued option)) :
    reading.letters [Utf8.spelled letter] = reading.await option := by
  simp only [Reading.letters, Utf8.spelled, known, List.flatMap_nil]

theorem letters_attach {letter : Char} {option : Valued} {value : List Char}
    (known : short? letter = some (.valued option)) (filled : value ≠ [])
    (different : value.head? ≠ some '=') :
    reading.letters (Utf8.spelled letter :: value.map Utf8.spelled) =
      reading.attach option (Utf8.encodeChars value) := by
  have unmarked := encodeChars_head?_ne_equals different
  obtain ⟨first, rest, split⟩ := List.exists_cons_of_ne_nil
    (mt Utf8.encodeChars_eq_nil_iff.mp filled)
  rw [split, List.head?_cons, ne_eq, Option.some_inj] at unmarked
  simp only [Reading.letters, Utf8.flatMap_raw_spelled, split, if_neg unmarked]
  simp only [Utf8.spelled, known]

theorem letters_equated {letter : Char} {option : Valued}
    (known : short? letter = some (.valued option)) (value : List Char) :
    reading.letters (Utf8.spelled letter :: ('=' :: value).map Utf8.spelled) =
      reading.attach option (Utf8.encodeChars value) := by
  simp only [Reading.letters, Utf8.flatMap_raw_spelled, encodeChars_equals, if_true]
  simp only [Utf8.spelled, known]

section Clusters

variable {cluster : List Char} (plain : ∀ letter ∈ cluster, Plain letter)
include plain

theorem undashed_of_plain : cluster.head? ≠ some '-' :=
  fun first => (plain '-' (List.mem_of_head? first)).1 rfl

theorem letters_of_known (known : (cluster.find? fun letter => (short? letter).isNone) = none)
    (reads : Reads reading request) :
    ∃ after, reading.letters (cluster.map Utf8.spelled) = .ok after ∧
      Reads after (cluster.foldl Request.addLetter request) := by
  induction cluster generalizing reading request with
  | nil => exact ⟨reading, rfl, reads⟩
  | cons letter cluster inductionHypothesis =>
      have declared : short? letter ≠ none := by simpa using List.find?_eq_none.mp known letter
      have flag := (plain letter List.mem_cons_self).2.2.resolve_left declared
      rw [List.find?_cons_of_neg (by simp [flag])] at known
      have raised : request.addLetter letter = request.raise .verbose := by
        simp only [Request.addLetter, flag]
      rw [List.map_cons, letters_flag flag, reads.raise, List.foldl_cons, raised]
      exact inductionHypothesis
        (fun other membership => plain other (List.mem_cons_of_mem _ membership)) known
        (reads_settled _)

theorem letters_of_unknown {letter : Char}
    (found : (cluster.find? fun letter => (short? letter).isNone) = some letter)
    (reads : Reads reading request) :
    reading.letters (cluster.map Utf8.spelled) =
      .error (.unknownArgument (String.ofList ['-', letter])) := by
  induction cluster generalizing reading request with
  | nil => cases found
  | cons first cluster inductionHypothesis =>
      rw [List.map_cons]
      rcases (plain first List.mem_cons_self).2.2 with unknown | flag
      · rw [List.find?_cons_of_pos (by simp [unknown]), Option.some_inj] at found
        rw [letters_unknown unknown, found]
      · rw [List.find?_cons_of_neg (by simp [flag])] at found
        rw [letters_flag flag, reads.raise]
        exact inductionHypothesis
          (fun other membership => plain other (List.mem_cons_of_mem _ membership)) found
          (reads_settled _)

end Clusters

/-! ## Names -/

theorem long?_name {name : List Char} {opt : Opt} (known : long? (String.ofList name) = some opt) :
    name ≠ [] ∧ '=' ∉ name := by
  have spelled {text : String} (same : String.ofList name = text) : name = text.toList := by
    rw [← same, String.toList_ofList]
  unfold long? at known
  repeat' split at known
  all_goals first
    | rw [spelled ‹_›]
      decide
    | cases known

section Named

variable {name : List Char} {option : Valued} (free : '=' ∉ name)
include free

theorem passes_of_free : ∀ octet ∈ Utf8.encodeChars name, (octet != 0x3D) = true := by
  intro octet membership
  rw [bne_iff_ne]
  rintro rfl
  exact free (Utf8.eq_of_mem_encodeChars (by decide) membership)

theorem takeWhile_name (value : Bytes) (marked : ∀ first ∈ value.head?, first = 0x3D) :
    (Utf8.encodeChars name ++ value).takeWhile (· != 0x3D) = Utf8.encodeChars name := by
  rw [List.takeWhile_append_of_pos (passes_of_free free)]
  cases value with
  | nil => simp
  | cons first value => simp [marked first rfl]

theorem dropWhile_name (value : Bytes) (marked : ∀ first ∈ value.head?, first = 0x3D) :
    (Utf8.encodeChars name ++ value).dropWhile (· != 0x3D) = value := by
  rw [List.dropWhile_append_of_pos (passes_of_free free)]
  cases value with
  | nil => simp
  | cons first value => simp [marked first rfl]

theorem long_unknown (unknown : long? (String.ofList name) = none) {value : Bytes}
    (marked : ∀ first ∈ value.head?, first = 0x3D) :
    reading.long (Utf8.encodeChars name ++ value) =
      .error (.unknownArgument (String.ofList ('-' :: '-' :: name))) := by
  have shown : "--" ++ String.ofList name = String.ofList ('-' :: '-' :: name) := by
    rw [← String.toList_inj]
    simp
  simp [Reading.long, takeWhile_name free value marked, unknown, shown]

/-- A name alone is all taken, and no value is left. -/
theorem bare_name :
    (Utf8.encodeChars name).takeWhile (· != 0x3D) = Utf8.encodeChars name ∧
      (Utf8.encodeChars name).dropWhile (· != 0x3D) = [] := by
  have taken := takeWhile_name free [] (by simp)
  have left := dropWhile_name free [] (by simp)
  rw [List.append_nil] at taken left
  exact ⟨taken, left⟩

theorem long_flag {flag : Flag} (known : long? (String.ofList name) = some (.flag flag)) :
    reading.long (Utf8.encodeChars name) = reading.raise flag := by
  obtain ⟨taken, left⟩ := bare_name free
  simp [Reading.long, taken, left, known]

theorem long_await (known : long? (String.ofList name) = some (.valued option)) :
    reading.long (Utf8.encodeChars name) = reading.await option := by
  obtain ⟨taken, left⟩ := bare_name free
  simp [Reading.long, taken, left, known]

theorem long_attach (known : long? (String.ofList name) = some (.valued option)) (value : Bytes) :
    reading.long (Utf8.encodeChars name ++ 0x3D :: value) = reading.attach option value := by
  have taken := takeWhile_name free (0x3D :: value) (by simp)
  have left := dropWhile_name free (0x3D :: value) (by simp)
  simp [Reading.long, taken, left, known]

end Named

/-! ## One element -/

theorem take_awaited (request : Request) {option : Valued} {value : List Char}
    (undashed : value.head? ≠ some '-') :
    ({ request, pending := some (option, none) } : Reading).take (Utf8.encodeChars value) =
      .ok { request, pending := some (option, some (Utf8.encodeChars value)) } := by
  rw [take_word rfl (encodeChars_head?_ne_dash undashed)]

theorem take_value (request : Request) {option : Valued} {value : List Char}
    (acceptable : Acceptable option value) :
    ∃ after,
      ({ request, pending := some (option, none) } : Reading).take (Utf8.encodeChars value) =
        .ok after ∧ Reads after (request.put value option) := by
  refine ⟨_, take_awaited request acceptable.2.1, rfl, by simp, ?_⟩
  simp only [Reading.resolve, acceptable.set request]
  rfl

section Spelled

variable {spelling : Spelling} {option : Valued} {value : List Char}
  (optionsOn : reading.wordsOnly = false)
include optionsOn

theorem take_letter {letter : Char} {opt : Opt} (known : short? letter = some opt)
    (rest : List Char) :
    reading.take (Utf8.encodeChars ('-' :: letter :: rest)) =
      reading.letters ((letter :: rest).map Utf8.spelled) := by
  have undashed : (letter :: rest).head? ≠ some '-' := by
    rintro same
    cases same
    cases known
  exact take_dash optionsOn (List.cons_ne_nil _ _) undashed

theorem take_flag {flag : Flag} (known : spelling.opt? = some (.flag flag)) :
    reading.take (Utf8.encodeChars spelling.text) = reading.raise flag := by
  cases spelling with
  | short letter =>
      rw [Spelling.text, take_letter optionsOn known, List.map_cons, letters_flag known]
      cases reading.raise flag <;> rfl
  | long name =>
      obtain ⟨filled, free⟩ := long?_name known
      rw [Spelling.text, take_dashes optionsOn filled]
      exact long_flag free known

theorem take_option (known : spelling.opt? = some (.valued option)) :
    reading.take (Utf8.encodeChars spelling.text) = reading.await option := by
  cases spelling with
  | short letter =>
      rw [Spelling.text, take_letter optionsOn known]
      exact letters_await known
  | long name =>
      obtain ⟨filled, free⟩ := long?_name known
      rw [Spelling.text, take_dashes optionsOn filled]
      exact long_await free known

theorem take_attached {letter : Char} (known : short? letter = some (.valued option))
    (filled : value ≠ []) (different : value.head? ≠ some '=') :
    reading.take (Utf8.encodeChars ('-' :: letter :: value)) =
      reading.attach option (Utf8.encodeChars value) := by
  rw [take_letter optionsOn known]
  exact letters_attach known filled different

theorem take_equated (known : spelling.opt? = some (.valued option)) (value : List Char) :
    reading.take (Utf8.encodeChars (spelling.text ++ '=' :: value)) =
      reading.attach option (Utf8.encodeChars value) := by
  cases spelling with
  | short letter =>
      rw [Spelling.text, List.cons_append, List.cons_append, List.nil_append,
        take_letter optionsOn known]
      exact letters_equated known value
  | long name =>
      obtain ⟨-, free⟩ := long?_name known
      rw [Spelling.text, List.cons_append, List.cons_append, take_dashes optionsOn (by simp),
        Utf8.encodeChars_append, encodeChars_equals]
      exact long_attach free known _

end Spelled

theorem take_spelling {spelling : Spelling} {option : Valued}
    (known : spelling.opt? = some (.valued option)) (reads : Reads reading request) :
    reading.take (Utf8.encodeChars spelling.text) =
      .ok { request, pending := some (option, none) } := by
  rw [take_option reads.optionsOn known, reads.await]

theorem take_joined {spelling : Spelling} {option : Valued} {value : List Char}
    (known : spelling.opt? = some (.valued option)) (acceptable : Acceptable option value)
    (reads : Reads reading request) :
    reading.take (Utf8.encodeChars (spelling.joined value)) =
      .ok { request := request.put value option } := by
  rw [← reads.attach (acceptable.set request)]
  cases spelling with
  | short letter => exact take_attached reads.optionsOn known acceptable.1 acceptable.2.2.1
  | long name => exact take_equated reads.optionsOn known value

namespace Element

variable {element : Element}

theorem foldlM_of_given {argument : List Char} (alone : element.given = [argument]) :
    element.written.foldlM Reading.take reading = reading.take (Utf8.encodeChars argument) := by
  rw [written, alone]
  simp

/-- A known element is read whatever was read before. -/
theorem taken (valid : element.Valid) (known : element.complaint? = none)
    (reads : Reads reading request) :
    ∃ after, element.written.foldlM Reading.take reading = .ok after ∧
      Reads after (request.add element) := by
  cases element with
  | letters cluster =>
      obtain ⟨filled, plain⟩ := valid
      obtain ⟨after, taken, settled⟩ :=
        letters_of_known plain (Option.map_eq_none_iff.mp known) reads
      refine ⟨after, ?_, settled⟩
      rw [foldlM_of_given rfl, take_dash reads.optionsOn filled (undashed_of_plain plain), taken]
  | flag name raised =>
      have known : (Spelling.long name).opt? = some (.flag raised) := valid
      refine ⟨_, ?_, reads_settled (request.raise raised)⟩
      rw [foldlM_of_given rfl, ← reads.raise]
      exact take_flag reads.optionsOn known
  | separate spelling option value =>
      obtain ⟨after, taken, settled⟩ := take_value request valid.2
      refine ⟨after, ?_, settled⟩
      rw [written, given, List.map_cons, List.foldlM_cons, take_spelling valid.1 reads]
      exact (bind_pure _).trans taken
  | joined spelling option value =>
      refine ⟨_, ?_, reads_settled (request.put value option)⟩
      rw [foldlM_of_given rfl, take_joined valid.1 valid.2 reads]
  | word text => cases known
  | stray name value => cases known

/-- An element that is not known throughout is complained about, whatever was read before. -/
theorem refused {offending : List Char} (valid : element.Valid)
    (unknown : element.complaint? = some offending) (reads : Reads reading request) :
    element.written.foldlM Reading.take reading =
      .error (.unknownArgument (String.ofList offending)) := by
  cases element with
  | letters cluster =>
      obtain ⟨filled, plain⟩ := valid
      obtain ⟨letter, found, rfl⟩ := Option.map_eq_some_iff.mp unknown
      rw [foldlM_of_given rfl, take_dash reads.optionsOn filled (undashed_of_plain plain),
        letters_of_unknown plain found reads]
  | word text =>
      cases unknown
      rw [foldlM_of_given rfl,
        take_word reads.optionsOn (encodeChars_head?_ne_dash valid.2)]
      split
      · exact absurd ‹_› (reads.complete _)
      · rw [Utf8.decodeLossy_encodeChars]
  | stray name value =>
      obtain ⟨filled, free, undeclared⟩ := valid
      cases unknown
      have marked : ∀ first ∈ (Utf8.encodeChars (value.elim [] ('=' :: ·))).head?,
          first = 0x3D := by
        cases value with
        | none => simp
        | some value => simp [-Utf8.encodeChars_cons, encodeChars_equals]
      rw [foldlM_of_given rfl, List.cons_append, List.cons_append,
        take_dashes reads.optionsOn (List.append_ne_nil_of_left_ne_nil filled _),
        Utf8.encodeChars_append, long_unknown free undeclared marked]
  | flag name raised => cases unknown
  | separate spelling option value => cases unknown
  | joined spelling option value => cases unknown

end Element

end Reading

/-! ## Whole lines -/

/-- What is read whatever was read before, is read item after item. -/
theorem foldlM_of_taken {Item : Type} {written : Item → List Bytes}
    {add : Request → Item → Request} {line : List Item} {reading : Reading} {request : Request}
    (taken : ∀ item ∈ line, ∀ {reading : Reading} {request : Request}, Reads reading request →
      ∃ after, (written item).foldlM Reading.take reading = .ok after ∧
        Reads after (add request item))
    (reads : Reads reading request) :
    ∃ after, (line.flatMap written).foldlM Reading.take reading = .ok after ∧
      Reads after (line.foldl add request) := by
  induction line generalizing reading request with
  | nil => exact ⟨reading, rfl, reads⟩
  | cons item line inductionHypothesis =>
      obtain ⟨next, read, settled⟩ := taken item List.mem_cons_self reads
      rw [List.flatMap_cons, List.foldlM_append, read]
      exact inductionHypothesis
        (fun other membership => taken other (List.mem_cons_of_mem _ membership)) settled

section Parse

variable {program : Bytes} {arguments : List Bytes}

theorem parse_eq_bind :
    parse (program :: arguments) =
      ((arguments.foldlM Reading.take {}).bind Reading.resolve).map Reading.request := by
  show (arguments.foldlM Reading.take {}).bind
    (fun reading => reading.resolve.bind fun resolved => .ok resolved.request) = _
  cases arguments.foldlM Reading.take {} with
  | error cause => rfl
  | ok reading =>
      show reading.resolve.bind _ = reading.resolve.map _
      cases reading.resolve <;> rfl

theorem parse_of_reads {reading : Reading} {request : Request}
    (taken : arguments.foldlM Reading.take {} = .ok reading) (settled : Reads reading request) :
    parse (program :: arguments) = .ok request := by
  rw [parse_eq_bind, taken]
  exact congrArg (Except.map Reading.request) settled.resolved

theorem parse_of_error {cause : Error}
    (refused : (arguments.foldlM Reading.take {}).bind Reading.resolve = .error cause) :
    parse (program :: arguments) = .error cause := by
  rw [parse_eq_bind, refused]
  rfl

end Parse

section Lines

variable {line before after : List Element}

theorem foldlM_of_known (valid : ∀ element ∈ line, element.Valid)
    (known : ∀ element ∈ line, element.complaint? = none) :
    ∃ reading, (written line).foldlM Reading.take {} = .ok reading ∧
      Reads reading (line.foldl Request.add {}) :=
  foldlM_of_taken
    (fun element membership => element.taken (valid element membership) (known element membership))
    (reads_settled {})

theorem parse_of_known (program : Bytes) (valid : ∀ element ∈ line, element.Valid)
    (known : ∀ element ∈ line, element.complaint? = none) :
    parse (program :: written line) = .ok (line.foldl Request.add {}) := by
  obtain ⟨reading, taken, settled⟩ := foldlM_of_known valid known
  exact parse_of_reads taken settled

theorem parse_of_unknown (program : Bytes) {element : Element} {offending : List Char}
    (valid : ∀ element ∈ before, element.Valid)
    (known : ∀ element ∈ before, element.complaint? = none) (spelled : element.Valid)
    (unknown : element.complaint? = some offending) :
    parse (program :: written (before ++ element :: after)) =
      .error (.unknownArgument (String.ofList offending)) := by
  obtain ⟨reading, taken, settled⟩ := foldlM_of_known valid known
  apply parse_of_error
  rw [written] at taken
  rw [written, List.flatMap_append, List.foldlM_append, taken, List.flatMap_cons]
  show ((element.written ++ _).foldlM Reading.take reading).bind _ = _
  rw [List.foldlM_append, element.refused spelled unknown settled]
  rfl

end Lines

end BaudSwitch.CommandLine
