import BaudSwitch.Proofs.CommandLine.Lenient
import Mathlib.Data.List.Induction

/-!
# Known options in any order

Of the values that an option is given the last one counts, and a flag counts wherever it stands.
The values in front of the last are read all the same: a rate that no line can have spoils the
command line wherever it stands.
-/

namespace BaudSwitch.CommandLine

/-! ## Options as they are given -/

/-- Where the value of an option stands. -/
inductive Placement where
  /-- In the next argument. -/
  | separate
  /-- Right behind the letter of the option. -/
  | attached
  /-- Behind an equals sign. -/
  | equated
  deriving DecidableEq, Repr

/-- Nothing can be attached to a name, which would only become a longer name. -/
def Placement.Allowed : Placement → Spelling → Prop
  | .attached, .long _ => False
  | _, _ => True

inductive Item where
  | flag (spelling : Spelling) (raised : Flag)
  | valued (spelling : Spelling) (placement : Placement) (option : Valued) (value : List Char)
  deriving DecidableEq, Repr

/-- A value that cannot be mistaken for an option; the value of a rate is a decimal number. -/
def Legible (option : Valued) (value : List Char) : Prop :=
  value ≠ [] ∧ value.head? ≠ some '-' ∧ value.head? ≠ some '=' ∧
    (option = .baud → value.all Char.isDigit)

/-- A decimal number that is a rate: not zero, and of 32 bits. -/
def InRange (value : List Char) : Prop :=
  1 ≤ Nat.ofDigitChars 10 value 0 ∧ Nat.ofDigitChars 10 value 0 < UInt32.size

instance (placement : Placement) (spelling : Spelling) : Decidable (placement.Allowed spelling) :=
  match placement, spelling with
  | .attached, .long _ => .isFalse id
  | .attached, .short _ | .separate, _ | .equated, _ => .isTrue trivial

instance (option : Valued) (value : List Char) : Decidable (Legible option value) :=
  inferInstanceAs (Decidable (_ ∧ _))

instance (value : List Char) : Decidable (InRange value) :=
  inferInstanceAs (Decidable (_ ∧ _))

namespace Item

/-- The arguments that an item is given as. -/
def given : Item → List (List Char)
  | .flag spelling _ => [spelling.text]
  | .valued spelling .separate _ value => [spelling.text, value]
  | .valued spelling .attached _ value => [spelling.text ++ value]
  | .valued spelling .equated _ value => [spelling.text ++ '=' :: value]

/-- An item as octets. -/
def written (item : Item) : List Bytes :=
  item.given.map Utf8.encodeChars

def Valid : Item → Prop
  | .flag spelling raised => spelling.opt? = some (.flag raised)
  | .valued spelling placement option value =>
      spelling.opt? = some (.valued option) ∧ placement.Allowed spelling ∧ Legible option value

/-- A rate that no line can have. -/
def OutOfRange : Item → Prop
  | .valued _ _ .baud value => ¬ InRange value
  | _ => False

instance (item : Item) : Decidable item.Valid := by
  unfold Valid
  split <;> infer_instance

instance : (item : Item) → Decidable item.OutOfRange
  | .valued _ _ .baud value => inferInstanceAs (Decidable (¬ InRange value))
  | .valued _ _ .port _ | .valued _ _ .settingsFile _ | .valued _ _ .writeTo _ | .flag .. =>
      .isFalse id

/-- Whether an item raises a flag. -/
def raises (flag : Flag) : Item → Bool
  | .flag _ raised => raised == flag
  | .valued .. => false

/-- The value that an item gives an option. -/
def value? (option : Valued) : Item → Option (List Char)
  | .valued _ _ given value => if given = option then some value else none
  | .flag .. => none

end Item

/-! ## What a line asks for -/

/-- The value that an option is given last. -/
def last? (option : Valued) (items : List Item) : Option (List Char) :=
  (items.filterMap (Item.value? option)).getLast?

/-- The rate that digits spell. -/
def rate (value : List Char) : UInt32 :=
  UInt32.ofNat (Nat.ofDigitChars 10 value 0)

/-- Every flag that is given anywhere, and of every option the value given last. -/
def asked (items : List Item) : Request where
  verbose := items.any (Item.raises .verbose)
  strict := items.any (Item.raises .strict)
  printSettings := items.any (Item.raises .printSettings)
  baud := (last? .baud items).map rate
  port := (last? .port items).map String.ofList
  settingsFile := (last? .settingsFile items).map Utf8.encodeChars
  writeTo := (last? .writeTo items).map Utf8.encodeChars

/-- The request with what an item asks for. -/
def Request.addItem (request : Request) : Item → Request
  | .flag _ raised => request.raise raised
  | .valued _ _ option value => request.put value option

section Asked

variable {option : Valued} {items others : List Item}

theorem last?_concat (item : Item) :
    last? option (items ++ [item]) = (item.value? option).or (last? option items) := by
  cases given : item.value? option <;> simp [last?, given]

/-- What comes last is added to what was asked for before it. -/
theorem asked_concat (item : Item) : asked (items ++ [item]) = (asked items).addItem item := by
  cases item with
  | flag spelling raised =>
      cases raised <;>
        simp [asked, last?_concat, Item.raises, Item.value?, Request.addItem, Request.raise]
  | valued spelling placement option value =>
      cases option <;>
        simp [asked, last?_concat, Item.raises, Item.value?, Request.addItem, Request.put, rate]

theorem asked_eq_foldl : asked items = items.foldl Request.addItem {} := by
  -- From the end of the line, where what an item asks for stands over what came before it.
  induction items using List.reverseRec with
  | nil => rfl
  | append_singleton items item inductionHypothesis =>
      rw [asked_concat, inductionHypothesis, List.foldl_append]
      rfl

/-- Nothing counts but the flags and the last values. -/
theorem asked_congr (sameFlags : ∀ flag, others.any (Item.raises flag) =
      items.any (Item.raises flag))
    (sameValues : ∀ option, last? option others = last? option items) :
    asked others = asked items := by
  simp only [asked, sameFlags, sameValues]

theorem apply_asked (settings : Settings) :
    (asked items).apply settings =
      { settings with
        verbose := settings.verbose || items.any (Item.raises .verbose)
        verifyChecksums := settings.verifyChecksums || items.any (Item.raises .strict)
        line :=
          { settings.line with
            targetBaud := ((last? .baud items).map rate).getD settings.line.targetBaud
            port := ((last? .port items).map String.ofList).getD settings.line.port } } :=
  rfl

end Asked

/-! ## Values in range and out of range -/

section Values

variable {option : Valued} {value : List Char} (legible : Legible option value)
include legible

theorem Legible.acceptable (inRange : option = .baud → InRange value) :
    Acceptable option value := by
  obtain ⟨filled, undashed, different, digits⟩ := legible
  exact ⟨filled, undashed, different, fun rate => ⟨digits rate, inRange rate⟩⟩

/-- A number that is no rate is refused, whatever was asked for before. -/
theorem Legible.set_outOfRange (rate : option = .baud) (outOfRange : ¬ InRange value)
    (request : Request) :
    request.set option (Utf8.encodeChars value) = .error .invalidValue := by
  obtain ⟨filled, -, -, digits⟩ := legible
  have refused : baud? value = none := by
    simp only [baud?, signed?_of_digits filled (digits rate)]
    refine if_neg fun inside => outOfRange ⟨?_, ?_⟩
    · exact_mod_cast inside.1
    · exact_mod_cast inside.2
  subst rate
  simp only [Request.set, Utf8.decodeChars?_encodeChars, refused]

end Values

/-! ## One item -/

/-- The value that came last is no value of its option. -/
structure Spoilt (reading : Reading) : Prop where
  optionsOn : reading.wordsOnly = false
  refused : reading.resolve = .error .invalidValue

theorem spoilt_of_refused {request : Request} {option : Valued} {value : Bytes}
    (refused : request.set option value = .error .invalidValue) :
    Spoilt { request, pending := some (option, some value) } := by
  refine ⟨rfl, ?_⟩
  simp only [Reading.resolve, refused]
  rfl

namespace Item

variable {item : Item} {reading : Reading} {request : Request}

theorem foldlM_of_given {argument : List Char} (alone : item.given = [argument]) :
    item.written.foldlM Reading.take reading = reading.take (Utf8.encodeChars argument) := by
  rw [written, alone]
  simp

theorem foldlM_separate {spelling : Spelling} {option : Valued} {value : List Char} :
    (Item.valued spelling .separate option value).written.foldlM Reading.take reading =
      (reading.take (Utf8.encodeChars spelling.text)).bind
        fun awaiting => awaiting.take (Utf8.encodeChars value) := by
  simp only [written, given, List.map_cons, List.map_nil, List.foldlM_cons, List.foldlM_nil]
  exact bind_congr fun awaiting => bind_pure _

/-- A value that is not in an argument of its own is attached. -/
theorem foldlM_attach {spelling : Spelling} {placement : Placement} {option : Valued}
    {value : List Char} (valid : (Item.valued spelling placement option value).Valid)
    (together : placement ≠ .separate) (optionsOn : reading.wordsOnly = false) :
    (Item.valued spelling placement option value).written.foldlM Reading.take reading =
      reading.attach option (Utf8.encodeChars value) := by
  obtain ⟨known, allowed, filled, -, different, -⟩ := valid
  cases placement with
  | separate => exact absurd rfl together
  | equated => rw [foldlM_of_given rfl, take_equated optionsOn known]
  | attached =>
      cases spelling with
      | long name => cases allowed
      | short letter =>
          rw [foldlM_of_given rfl]
          exact take_attached optionsOn known filled different

/-- An item in range is read whatever was read before. -/
theorem taken (valid : item.Valid) (inRange : ¬ item.OutOfRange) (reads : Reads reading request) :
    ∃ after, item.written.foldlM Reading.take reading = .ok after ∧
      Reads after (request.addItem item) := by
  cases item with
  | flag spelling raised =>
      refine ⟨_, ?_, reads_settled (request.raise raised)⟩
      rw [foldlM_of_given rfl, take_flag reads.optionsOn valid, reads.raise]
  | valued spelling placement option value =>
      have acceptable : Acceptable option value := valid.2.2.acceptable fun rate => by
        subst rate
        exact Decidable.not_not.mp inRange
      by_cases separate : placement = .separate
      · subst separate
        obtain ⟨after, taken, settled⟩ := take_value request acceptable
        refine ⟨after, ?_, settled⟩
        rw [foldlM_separate, take_spelling valid.1 reads]
        exact taken
      · refine ⟨_, ?_, reads_settled (request.put value option)⟩
        rw [foldlM_attach valid separate reads.optionsOn, reads.attach (acceptable.set request)]

/-- An item out of range is refused where it stands, or spoils the reading for what follows. -/
theorem spoils (valid : item.Valid) (outOfRange : item.OutOfRange)
    (reads : Reads reading request) :
    item.written.foldlM Reading.take reading = .error .invalidValue ∨
      ∃ after, item.written.foldlM Reading.take reading = .ok after ∧ Spoilt after := by
  match item, outOfRange with
  | .valued spelling placement .baud value, outOfRange =>
      have refused := valid.2.2.set_outOfRange rfl outOfRange request
      by_cases separate : placement = .separate
      · subst separate
        refine .inr ⟨_, ?_, spoilt_of_refused refused⟩
        rw [foldlM_separate, take_spelling valid.1 reads]
        exact take_awaited request valid.2.2.2.1
      · left
        rw [foldlM_attach valid separate reads.optionsOn, Reading.attach, reads.resolved]
        show (request.set .baud (Utf8.encodeChars value)).bind _ = _
        rw [refused]
        rfl

/-- Behind a value that was not looked at yet, every item brings out that it is none. -/
theorem refused_of_spoilt (valid : item.Valid) (spoilt : Spoilt reading) :
    item.written.foldlM Reading.take reading = .error .invalidValue := by
  cases item with
  | flag spelling raised =>
      rw [foldlM_of_given rfl, take_flag spoilt.optionsOn valid, Reading.raise, spoilt.refused]
      rfl
  | valued spelling placement option value =>
      by_cases separate : placement = .separate
      · subst separate
        rw [foldlM_separate, take_option spoilt.optionsOn valid.1, Reading.await, spoilt.refused]
        rfl
      · rw [foldlM_attach valid separate spoilt.optionsOn, Reading.attach, spoilt.refused]
        rfl

end Item

/-! ## Whole lines -/

/-- The arguments that items are given as. -/
def writtenItems (items : List Item) : List Bytes :=
  items.flatMap Item.written

section Lines

variable {items : List Item}

theorem foldlM_writtenItems_cons {item : Item} {reading : Reading} :
    (writtenItems (item :: items)).foldlM Reading.take reading =
      (item.written.foldlM Reading.take reading).bind
        fun after => (writtenItems items).foldlM Reading.take after := by
  rw [writtenItems, List.flatMap_cons, List.foldlM_append]
  rfl

theorem resolve_of_spoilt (valid : ∀ item ∈ items, item.Valid) {reading : Reading}
    (spoilt : Spoilt reading) :
    ((writtenItems items).foldlM Reading.take reading).bind Reading.resolve =
      .error .invalidValue := by
  cases items with
  | nil => exact spoilt.refused
  | cons item items =>
      rw [foldlM_writtenItems_cons, item.refused_of_spoilt (valid item List.mem_cons_self) spoilt]
      rfl

/-- One rate out of range is enough, wherever it stands. -/
theorem resolve_of_outOfRange (valid : ∀ item ∈ items, item.Valid)
    (outOfRange : ∃ item ∈ items, item.OutOfRange) {reading : Reading} {request : Request}
    (reads : Reads reading request) :
    ((writtenItems items).foldlM Reading.take reading).bind Reading.resolve =
      .error .invalidValue := by
  induction items generalizing reading request with
  | nil => simp at outOfRange
  | cons item items inductionHypothesis =>
      rw [List.forall_mem_cons] at valid
      rw [foldlM_writtenItems_cons]
      by_cases here : item.OutOfRange
      · rcases item.spoils valid.1 here reads with refused | ⟨after, taken, spoilt⟩
        · rw [refused]
          rfl
        · rw [taken]
          exact resolve_of_spoilt valid.2 spoilt
      · obtain ⟨next, taken, settled⟩ := item.taken valid.1 here reads
        rw [taken]
        exact inductionHypothesis valid.2 (by simpa [here] using outOfRange) settled

theorem parse_of_inRange (program : Bytes) (valid : ∀ item ∈ items, item.Valid)
    (inRange : ∀ item ∈ items, ¬ item.OutOfRange) :
    parse (program :: writtenItems items) = .ok (asked items) := by
  obtain ⟨reading, taken, settled⟩ : ∃ reading,
      (writtenItems items).foldlM Reading.take {} = .ok reading ∧
        Reads reading (items.foldl Request.addItem {}) :=
    foldlM_of_taken
      (fun item membership => item.taken (valid item membership) (inRange item membership))
      (reads_settled {})
  rw [asked_eq_foldl]
  exact parse_of_reads taken settled

theorem parse_of_outOfRange (program : Bytes) (valid : ∀ item ∈ items, item.Valid)
    (outOfRange : ∃ item ∈ items, item.OutOfRange) :
    parse (program :: writtenItems items) = .error .invalidValue :=
  parse_of_error (resolve_of_outOfRange valid outOfRange (reads_settled {}))

/-- A line of known options asks for every flag on it and for the last value of each option, and
for nothing else; it changes no more of the settings than that.  A rate out of range fails, in
whatever place. -/
theorem parseLenient_takes_last (program : Bytes) (valid : ∀ item ∈ items, item.Valid) :
    ((∀ item ∈ items, ¬ item.OutOfRange) →
      parseLenient (program :: writtenItems items) = .ok (asked items) ∧
      (∀ settings, (asked items).apply settings =
        { settings with
          verbose := settings.verbose || items.any (Item.raises .verbose)
          verifyChecksums := settings.verifyChecksums || items.any (Item.raises .strict)
          line :=
            { settings.line with
              targetBaud := ((last? .baud items).map rate).getD settings.line.targetBaud
              port := ((last? .port items).map String.ofList).getD settings.line.port } }) ∧
      ∀ others : List Item, (∀ item ∈ others, item.Valid ∧ ¬ item.OutOfRange) →
        (∀ flag, others.any (Item.raises flag) = items.any (Item.raises flag)) →
        (∀ option, last? option others = last? option items) →
        parseLenient (program :: writtenItems others) =
          parseLenient (program :: writtenItems items)) ∧
    ((∃ item ∈ items, item.OutOfRange) →
      parseLenient (program :: writtenItems items) = .error .invalidValue) := by
  refine ⟨fun inRange => ?_, fun outOfRange => ?_⟩
  · have parsed := lenient_of_ok (parse_of_inRange program valid inRange)
    refine ⟨parsed, apply_asked, fun others readable sameFlags sameValues => ?_⟩
    have othersParsed := lenient_of_ok (parse_of_inRange program
      (fun item membership => (readable item membership).1)
      fun item membership => (readable item membership).2)
    rw [asked_congr sameFlags sameValues] at othersParsed
    exact othersParsed.trans parsed.symm
  · exact lenient_of_stuck (parse_of_outOfRange program valid outOfRange) rfl

end Lines

theorem parseLenient_takes_last_mixed :
    let program := Bytes.ascii "gdb-baud"
    let port : Item := .valued (.short 'c') .equated .port "/dev/ttyS1".toList
    let file : Item := .valued (.long "config".toList) .equated .settingsFile "a.toml".toList
    let slower : Item := .valued (.short 'b') .separate .baud "0115200".toList
    let faster : Item := .valued (.short 'B') .attached .baud "460800".toList
    let strict : Item := .flag (.long "strict".toList) .strict
    let items : List Item := [.flag (.short 'V') .verbose, slower, port, strict, faster, file]
    let others : List Item := [file, slower, faster, strict, port, .flag (.short 'v') .verbose]
    let zero : Item := .valued (.short 'b') .equated .baud "00".toList
    parseLenient (program :: writtenItems items) =
        .ok { verbose := true, strict := true, baud := some 460800, port := some "/dev/ttyS1",
              settingsFile := some (Bytes.ascii "a.toml") } ∧
      parseLenient (program :: writtenItems others) =
        parseLenient (program :: writtenItems items) ∧
      parseLenient (program :: writtenItems (zero :: items)) = .error .invalidValue := by
  intro program port file slower faster strict items others zero
  have valid : ∀ item ∈ items, item.Valid := by decide +kernel
  have inRange : ∀ item ∈ items, ¬ item.OutOfRange := by decide +kernel
  have readable : ∀ item ∈ others, item.Valid ∧ ¬ item.OutOfRange := by decide +kernel
  have sameFlags : ∀ flag, others.any (Item.raises flag) = items.any (Item.raises flag) := by
    rintro (_ | _ | _) <;> decide +kernel
  have sameValues : ∀ option, last? option others = last? option items := by
    rintro (_ | _ | _ | _) <;> decide +kernel
  obtain ⟨parsed, -, commutes⟩ := (parseLenient_takes_last program valid).1 inRange
  refine ⟨parsed.trans ?_, commutes others readable sameFlags sameValues, ?_⟩
  · decide +kernel
  · exact (parseLenient_takes_last program (by decide +kernel)).2
      ⟨zero, List.mem_cons_self, by decide +kernel⟩

end BaudSwitch.CommandLine
