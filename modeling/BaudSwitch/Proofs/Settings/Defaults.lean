import BaudSwitch.Proofs.Settings.Storage
import BaudSwitch.Proofs.Toml.Limits
import BaudSwitch.Proofs.Toml.Regular

/-!
# What a document leaves open

A document need not name every setting, and may name what is none.  Where each known section is
absent or a table, the settings follow the known keys one by one: a key that is there gives its
setting, or ruins the document if it holds something of another kind, and a key that is not there
leaves the built-in value, as a section does that is not there.  Neither the order of the keys nor
the names of anything else count.  A text beyond the limits of documents gives no settings.
-/

namespace BaudSwitch.Settings

open Toml (Document Entries Readable Section Value madeOf)

/-- What a known key may hold. -/
inductive Kind where
  | flag
  | text
  /-- A whole number below a bound, and not below zero. -/
  | number (bound : Nat)
  deriving DecidableEq, Repr

def Kind.Admits : Kind → Value → Prop
  | .flag, .boolean _ => True
  | .text, .string _ => True
  | .number bound, .integer amount => 0 ≤ amount ∧ amount < bound
  | _, _ => False

/-- The known sections with their keys, each with what it may hold. -/
def knownKeys : List (String × List (String × Kind)) :=
  [ ("general", [("verbose", .flag)]),
    ("serial",
      [ ("port", .text),
        ("initial_baud", .number (2 ^ 32)),
        ("target_baud", .number (2 ^ 32)),
        ("read_timeout_ms", .number (2 ^ 63)),
        ("max_response_size", .number (2 ^ 63)),
        ("settle_delay_ms", .number (2 ^ 63)) ]),
    ("target",
      [("system_clock_hz", .number (2 ^ 32)), ("baud_register", .number (2 ^ 32))]),
    ("protocol", [("verify_checksums", .flag)]) ]

/-- The names of the known keys, each behind that of its section. -/
def keyNames : List (String × String) :=
  knownKeys.flatMap fun named => named.2.map fun key => (named.1, key.1)

/-- The value that a document gives under a key of a section. -/
def given? (entries : Entries) (name key : String) : Option Value :=
  match entries.find? name with
  | some (.table _ held) => Entries.find? held key
  | _ => none

/-- The known keys that a document gives, with their values, as they follow each other in it. -/
def givenKeys (entries : Entries) : List ((String × String) × Value) :=
  (entries.flatMap fun (name, value) =>
    match value with
    | .table _ held => held.map fun (key, value) => ((name, key), value)
    | _ => []).filter fun given => given.1 ∈ keyNames

/-- Each known section is absent or a table. -/
def Sectioned (entries : Entries) : Prop :=
  ∀ named ∈ knownKeys, ∀ value, entries.find? named.1 = some value →
    ∃ origin held, value = .table origin held

/-- Each known key that is there holds what it may hold. -/
def Declared (entries : Entries) : Prop :=
  ∀ named ∈ knownKeys, ∀ key ∈ named.2, ∀ value,
    given? entries named.1 key.1 = some value → key.2.Admits value

/-- What a setting is, by the value that a document gives for it. -/
inductive Settled {Held : Type} (write : Held → Value) (builtIn : Held) :
    Option Value → Held → Prop where
  | absent : Settled write builtIn none builtIn
  | given (held : Held) : Settled write builtIn (some (write held)) held

def ofWord32 (word : UInt32) : Value :=
  .integer word.toNat

def ofWord64 (word : UInt64) : Value :=
  .integer word.toNat

/-- Every setting is what the document gives under its key, and the built-in one where it gives
nothing. -/
structure Follows (settings : Settings) (entries : Entries) : Prop where
  verbose : Settled .boolean ({} : Settings).verbose (given? entries "general" "verbose")
    settings.verbose
  port : Settled .string ({} : LineSettings).port (given? entries "serial" "port")
    settings.line.port
  initialBaud : Settled ofWord32 ({} : LineSettings).initialBaud
    (given? entries "serial" "initial_baud") settings.line.initialBaud
  targetBaud : Settled ofWord32 ({} : LineSettings).targetBaud
    (given? entries "serial" "target_baud") settings.line.targetBaud
  readTimeout : Settled ofWord64 ({} : LineSettings).readTimeout
    (given? entries "serial" "read_timeout_ms") settings.line.readTimeout
  maxResponse : Settled ofWord64 ({} : LineSettings).maxResponse
    (given? entries "serial" "max_response_size") settings.line.maxResponse
  settleDelay : Settled ofWord64 ({} : LineSettings).settleDelay
    (given? entries "serial" "settle_delay_ms") settings.line.settleDelay
  clock : Settled ofWord32 ({} : TargetSettings).clock
    (given? entries "target" "system_clock_hz") settings.target.clock
  baudRegister : Settled ofWord32 ({} : TargetSettings).baudRegister
    (given? entries "target" "baud_register") settings.target.baudRegister
  verifyChecksums : Settled .boolean ({} : Settings).verifyChecksums
    (given? entries "protocol" "verify_checksums") settings.verifyChecksums

/-! ## One key -/

section Field

variable {value : Value}

theorem flag?_eq_some_iff {flag : Bool} : flag? value = some flag ↔ value = .boolean flag := by
  cases value <;> simp [flag?]

theorem text?_eq_some_iff {text : String} : text? value = some text ↔ value = .string text := by
  cases value <;> simp [text?]

theorem number?_eq_some_iff {bound number : Nat} :
    number? bound value = some number ↔ value = .integer number ∧ number < bound := by
  cases value with
  | integer amount =>
      simp only [number?, Value.integer.injEq]
      split <;> simp <;> omega
  | _ => simp [number?]

theorem word32?_eq_some_iff {word : UInt32} :
    word32? value = some word ↔ value = ofWord32 word := by
  simp only [word32?, Option.map_eq_some_iff, number?_eq_some_iff]
  constructor
  · rintro ⟨number, ⟨rfl, fits⟩, rfl⟩
    simp only [ofWord32, UInt32.toNat_ofNat_of_lt' fits]
  · rintro rfl
    exact ⟨word.toNat, ⟨rfl, word.toNat_lt⟩, UInt32.ofNat_toNat⟩

theorem word64?_eq_some_iff {word : UInt64} :
    word64? value = some word ↔ value = ofWord64 word := by
  simp only [word64?, Option.map_eq_some_iff, number?_eq_some_iff]
  constructor
  · rintro ⟨number, ⟨rfl, fits⟩, rfl⟩
    simp only [ofWord64, UInt64.toNat_ofNat_of_lt' fits]
  · rintro rfl
    exact ⟨word.toNat, ⟨rfl, word.toNat_lt⟩, UInt64.ofNat_toNat⟩

variable {Held : Type} {read : Value → Option Held} {write : Held → Value} {builtIn held : Held}

theorem field?_eq_some_iff (reads : ∀ value held, read value = some held ↔ value = write held)
    {fields : Fields} {key : String} {position : Nat} :
    field? fields key position read builtIn = some held ↔
      Settled write builtIn (fields key position) held := by
  unfold field?
  split
  next missing =>
    rw [missing]
    constructor
    · rintro ⟨⟩
      exact .absent
    · rintro ⟨⟩
      rfl
  next value found =>
    rw [found, reads]
    constructor
    · rintro rfl
      exact .given held
    · rintro ⟨⟩
      rfl

/-- A key settles its setting just where it holds what it may hold. -/
theorem exists_settled_iff (write : Held → Value) (builtIn : Held) {given : Option Value}
    {kind : Kind}
    (writes : ∀ value, given = some value → ((∃ held, value = write held) ↔ kind.Admits value)) :
    (∃ held, Settled write builtIn given held) ↔
      ∀ value, given = some value → kind.Admits value := by
  cases given with
  | none => exact ⟨fun _ => nofun, fun _ => ⟨builtIn, .absent⟩⟩
  | some value =>
      constructor
      · rintro ⟨held, settled⟩ _ ⟨⟩
        cases settled
        exact (writes _ rfl).mp ⟨held, rfl⟩
      · intro admitted
        obtain ⟨held, rfl⟩ := (writes value rfl).mpr (admitted value rfl)
        exact ⟨held, .given held⟩

theorem exists_boolean_iff : (∃ flag, value = .boolean flag) ↔ Kind.flag.Admits value := by
  cases value <;> simp [Kind.Admits]

theorem exists_string_iff : (∃ text, value = .string text) ↔ Kind.text.Admits value := by
  cases value <;> simp [Kind.Admits]

theorem exists_number_iff {bound : Nat} :
    (∃ number < bound, value = .integer number) ↔ (Kind.number bound).Admits value := by
  cases value with
  | integer amount =>
      constructor
      · rintro ⟨number, fits, ⟨⟩⟩
        exact ⟨Int.natCast_nonneg number, Int.ofNat_lt.mpr fits⟩
      · rintro ⟨positive, fits⟩
        obtain ⟨number, rfl⟩ := Int.eq_ofNat_of_zero_le positive
        exact ⟨number, Int.ofNat_lt.mp fits, rfl⟩
  | _ => simp [Kind.Admits]

theorem exists_ofWord32_iff :
    (∃ word, value = ofWord32 word) ↔ (Kind.number (2 ^ 32)).Admits value := by
  rw [← exists_number_iff]
  constructor
  · rintro ⟨word, rfl⟩
    exact ⟨word.toNat, word.toNat_lt, rfl⟩
  · rintro ⟨number, fits, rfl⟩
    exact ⟨UInt32.ofNat number, by rw [ofWord32, UInt32.toNat_ofNat_of_lt' fits]⟩

/-- No document within the limits holds a whole number at the bound or above it. -/
theorem exists_ofWord64_iff (regular : value.Regular .standard) :
    (∃ word, value = ofWord64 word) ↔ (Kind.number (2 ^ 63)).Admits value := by
  rw [← exists_number_iff]
  constructor
  · rintro ⟨word, rfl⟩
    obtain ⟨-, fits⟩ := regular.integer_fits
    exact ⟨word.toNat, Int.ofNat_lt.mp fits, rfl⟩
  · rintro ⟨number, fits, rfl⟩
    have small : number < UInt64.size := Nat.lt_trans fits (by decide)
    exact ⟨UInt64.ofNat number, by rw [ofWord64, UInt64.toNat_ofNat_of_lt' small]⟩

end Field

/-! ## The sections -/

section Sections

theorem verbose?_eq_some_iff {general : Fields} {verbose : Bool} :
    verbose? general = some verbose ↔ Settled .boolean false (general "verbose" 0) verbose :=
  field?_eq_some_iff fun _ _ => flag?_eq_some_iff

theorem line?_eq_some_iff {serial : Fields} {line : LineSettings} :
    line? serial = some line ↔
      Settled .string BuiltIn.port (serial "port" 0) line.port ∧
      Settled ofWord32 BuiltIn.initialBaud (serial "initial_baud" 1) line.initialBaud ∧
      Settled ofWord32 BuiltIn.targetBaud (serial "target_baud" 2) line.targetBaud ∧
      Settled ofWord64 BuiltIn.readTimeout (serial "read_timeout_ms" 3) line.readTimeout ∧
      Settled ofWord64 BuiltIn.maxResponse (serial "max_response_size" 4) line.maxResponse ∧
      Settled ofWord64 BuiltIn.settleDelay (serial "settle_delay_ms" 5) line.settleDelay := by
  simp only [line?, Option.bind_eq_bind, Option.bind_eq_some_iff, Option.pure_def, Option.some_inj,
    field?_eq_some_iff fun _ _ => text?_eq_some_iff,
    field?_eq_some_iff fun _ _ => word32?_eq_some_iff,
    field?_eq_some_iff fun _ _ => word64?_eq_some_iff]
  constructor
  · rintro ⟨port, isPort, initialBaud, isInitial, targetBaud, isTarget, readTimeout, isTimeout,
      maxResponse, isResponse, settleDelay, isDelay, rfl⟩
    exact ⟨isPort, isInitial, isTarget, isTimeout, isResponse, isDelay⟩
  · rintro ⟨port, initialBaud, targetBaud, readTimeout, maxResponse, settleDelay⟩
    exact ⟨_, port, _, initialBaud, _, targetBaud, _, readTimeout, _, maxResponse, _, settleDelay,
      rfl⟩

theorem target?_eq_some_iff {fields : Fields} {target : TargetSettings} :
    target? fields = some target ↔
      Settled ofWord32 BuiltIn.clock (fields "system_clock_hz" 0) target.clock ∧
      Settled ofWord32 BuiltIn.baudRegister (fields "baud_register" 1) target.baudRegister := by
  simp only [target?, Option.bind_eq_bind, Option.bind_eq_some_iff, Option.pure_def,
    Option.some_inj, field?_eq_some_iff fun _ _ => word32?_eq_some_iff]
  constructor
  · rintro ⟨clock, isClock, baudRegister, isRegister, rfl⟩
    exact ⟨isClock, isRegister⟩
  · rintro ⟨clock, baudRegister⟩
    exact ⟨_, clock, _, baudRegister, rfl⟩

theorem verifyChecksums?_eq_some_iff {protocol : Fields} {verifyChecksums : Bool} :
    verifyChecksums? protocol = some verifyChecksums ↔
      Settled .boolean false (protocol "verify_checksums" 0) verifyChecksums :=
  field?_eq_some_iff fun _ _ => flag?_eq_some_iff

/-- The fields of a section that gives nothing. -/
def nothing : Fields := fun _ _ => none

theorem verbose?_nothing : verbose? nothing = some ({} : Settings).verbose := rfl

theorem line?_nothing : line? nothing = some ({} : Settings).line := rfl

theorem target?_nothing : target? nothing = some ({} : Settings).target := rfl

theorem verifyChecksums?_nothing :
    verifyChecksums? nothing = some ({} : Settings).verifyChecksums := rfl

end Sections

section Document

variable {entries : Entries} {settings : Settings} {limits : Toml.Limits}

/-- Sections as they are written are tables, whatever their names. -/
theorem sectioned_madeOf (sections : List Section) : Sectioned (madeOf sections) := by
  intro named _ value found
  obtain ⟨table, -, same⟩ := List.mem_map.mp (Toml.Entries.mem_of_find? found)
  exact ⟨.header, table.made, (congrArg Prod.snd same).symm⟩

/-- Where the built-in values of a section agree with those of its fields, a section that is absent
is read like one that gives nothing. -/
theorem fromSection?_of_sectioned {Kind : Type} {read : Fields → Option Kind} {builtIn : Kind}
    (sectioned : Sectioned entries) (agree : read nothing = some builtIn) :
    ∀ named ∈ knownKeys, fromSection? (entries.find? named.1) read builtIn =
      read fun key _ => given? entries named.1 key := by
  intro named known
  unfold given?
  cases found : entries.find? named.1 with
  | none => exact agree.symm
  | some value =>
      obtain ⟨origin, held, rfl⟩ := sectioned named known value found
      rfl

/-- An empty section behind the others is read as if it were absent. -/
theorem fromSection?_append_empty {Kind : Type} {read : Fields → Option Kind} {builtIn : Kind}
    (agree : read nothing = some builtIn) (origin : Toml.Origin) (name other : String) :
    fromSection? (Entries.find? (entries ++ [(name, .table origin [])]) other) read builtIn =
      fromSection? (entries.find? other) read builtIn := by
  rw [Entries.find?, Entries.find?, List.lookup_append]
  cases entries.lookup other with
  | some value => rfl
  | none =>
      by_cases same : other = name
      · rw [same, List.lookup_cons_self]
        exact agree
      · rw [List.lookup_cons, beq_eq_false_iff_ne.mpr same]
        rfl

/-- An empty section changes no settings. -/
theorem ofEntries?_append_empty (origin : Toml.Origin) (name : String) :
    ofEntries? (entries ++ [(name, .table origin [])]) = ofEntries? entries := by
  simp only [ofEntries?, fromSection?_append_empty verbose?_nothing,
    fromSection?_append_empty line?_nothing, fromSection?_append_empty target?_nothing,
    fromSection?_append_empty verifyChecksums?_nothing]

/-- The settings of a document are those that follow it. -/
theorem ofEntries?_eq_some_iff (sectioned : Sectioned entries) :
    ofEntries? entries = some settings ↔ Follows settings entries := by
  have general := fromSection?_of_sectioned sectioned verbose?_nothing _ (.head _)
  have serial := fromSection?_of_sectioned sectioned line?_nothing _ (.tail _ (.head _))
  have target := fromSection?_of_sectioned sectioned target?_nothing _ (.tail _ (.tail _ (.head _)))
  have protocol := fromSection?_of_sectioned sectioned verifyChecksums?_nothing _
    (.tail _ (.tail _ (.tail _ (.head _))))
  rw [ofEntries?, general, serial, target, protocol]
  simp only [Option.bind_eq_bind, Option.bind_eq_some_iff, Option.pure_def, Option.some_inj,
    verbose?_eq_some_iff, line?_eq_some_iff, target?_eq_some_iff, verifyChecksums?_eq_some_iff]
  constructor
  · rintro ⟨verbose, general, line, ⟨port, initialBaud, targetBaud, readTimeout, maxResponse,
      settleDelay⟩, target, ⟨clock, baudRegister⟩, verifyChecksums, protocol, rfl⟩
    exact ⟨general, port, initialBaud, targetBaud, readTimeout, maxResponse, settleDelay, clock,
      baudRegister, protocol⟩
  · rintro ⟨verbose, port, initialBaud, targetBaud, readTimeout, maxResponse, settleDelay, clock,
      baudRegister, verifyChecksums⟩
    exact ⟨_, verbose, _, ⟨port, initialBaud, targetBaud, readTimeout, maxResponse, settleDelay⟩, _,
      ⟨clock, baudRegister⟩, _, verifyChecksums, rfl⟩

theorem given?_regular {name key : String} {value : Value} (regular : entries.Regular limits)
    (found : given? entries name key = some value) : value.Regular limits := by
  unfold given? at found
  split at found
  next origin held there =>
    have regularHeld := Toml.regular_table_iff.mp (regular.of_find? there)
    exact regularHeld.of_find? found
  next => cases found

/-- Settings follow a document within the limits just where every known key holds what it may
hold. -/
theorem exists_follows_iff (regular : entries.Regular .standard) :
    (∃ settings, Follows settings entries) ↔ Declared entries := by
  have flag {builtIn : Bool} {name key : String} :=
    exists_settled_iff .boolean builtIn
      fun value (_ : given? entries name key = some value) => exists_boolean_iff
  have text {builtIn : String} {name key : String} :=
    exists_settled_iff .string builtIn
      fun value (_ : given? entries name key = some value) => exists_string_iff
  have word32 {builtIn : UInt32} {name key : String} :=
    exists_settled_iff ofWord32 builtIn
      fun value (_ : given? entries name key = some value) => exists_ofWord32_iff
  have word64 {builtIn : UInt64} {name key : String} :=
    exists_settled_iff ofWord64 builtIn
      fun value (found : given? entries name key = some value) =>
        exists_ofWord64_iff (given?_regular regular found)
  simp only [Declared, knownKeys, List.forall_mem_cons, List.not_mem_nil, false_implies,
    implies_true, and_true]
  constructor
  · rintro ⟨settings, follows⟩
    exact ⟨flag.mp ⟨_, follows.verbose⟩,
      ⟨text.mp ⟨_, follows.port⟩, word32.mp ⟨_, follows.initialBaud⟩,
        word32.mp ⟨_, follows.targetBaud⟩, word64.mp ⟨_, follows.readTimeout⟩,
        word64.mp ⟨_, follows.maxResponse⟩, word64.mp ⟨_, follows.settleDelay⟩⟩,
      ⟨word32.mp ⟨_, follows.clock⟩, word32.mp ⟨_, follows.baudRegister⟩⟩,
      flag.mp ⟨_, follows.verifyChecksums⟩⟩
  · rintro ⟨general, ⟨serial, initial, target, timeout, response, delay⟩, ⟨frequency, register⟩,
      protocol⟩
    obtain ⟨verbose, isVerbose⟩ := flag.mpr general
    obtain ⟨port, isPort⟩ := text.mpr serial
    obtain ⟨initialBaud, isInitial⟩ := word32.mpr initial
    obtain ⟨targetBaud, isTarget⟩ := word32.mpr target
    obtain ⟨readTimeout, isTimeout⟩ := word64.mpr timeout
    obtain ⟨maxResponse, isResponse⟩ := word64.mpr response
    obtain ⟨settleDelay, isDelay⟩ := word64.mpr delay
    obtain ⟨clock, isClock⟩ := word32.mpr frequency
    obtain ⟨baudRegister, isRegister⟩ := word32.mpr register
    obtain ⟨verifyChecksums, isVerified⟩ := flag.mpr protocol
    exact ⟨{
      verbose
      line := { port, initialBaud, targetBaud, readTimeout, maxResponse, settleDelay }
      target := { clock, baudRegister }
      verifyChecksums },
      isVerbose, isPort, isInitial, isTarget, isTimeout, isResponse, isDelay, isClock, isRegister,
      isVerified⟩

/-! ## Order and unknown names -/

theorem mem_givenKeys_iff (regular : entries.Regular limits) {name key : String} {value : Value}
    (known : (name, key) ∈ keyNames) :
    ((name, key), value) ∈ givenKeys entries ↔ given? entries name key = some value := by
  simp only [givenKeys, List.mem_filter, List.mem_flatMap, known, decide_true, and_true]
  constructor
  · rintro ⟨⟨named, content⟩, found, inside⟩
    dsimp only at inside
    split at inside
    next origin held =>
      obtain ⟨entry, there, ⟨⟩⟩ := List.mem_map.mp inside
      have table := regular.find?_eq_some_iff.mpr found
      have regularHeld := Toml.regular_table_iff.mp (regular.of_find? table)
      simp only [given?, table]
      exact regularHeld.find?_eq_some_iff.mpr there
    next => cases inside
  · intro found
    unfold given? at found
    split at found
    next origin held table =>
      have regularHeld := Toml.regular_table_iff.mp (regular.of_find? table)
      refine ⟨_, regular.find?_eq_some_iff.mp table, ?_⟩
      exact List.mem_map.mpr ⟨(key, value), regularHeld.find?_eq_some_iff.mp found, rfl⟩
    next => cases found

variable {first second : Entries} {others : Toml.Limits}

theorem given?_eq_of_perm (regularFirst : first.Regular limits)
    (regularSecond : second.Regular others)
    (same : (givenKeys first).Perm (givenKeys second)) :
    ∀ names ∈ keyNames, given? first names.1 names.2 = given? second names.1 names.2 := by
  rintro ⟨name, key⟩ known
  apply Option.ext
  intro value
  rw [← mem_givenKeys_iff regularFirst known, ← mem_givenKeys_iff regularSecond known]
  exact same.mem_iff

theorem Follows.of_same
    (same : ∀ names ∈ keyNames, given? first names.1 names.2 = given? second names.1 names.2)
    (follows : Follows settings first) : Follows settings second := by
  simp only [keyNames, knownKeys, List.flatMap_cons, List.flatMap_nil, List.map_cons, List.map_nil,
    List.cons_append, List.nil_append, List.forall_mem_cons] at same
  obtain ⟨verbose, port, initialBaud, targetBaud, readTimeout, maxResponse, settleDelay, clock,
    baudRegister, verifyChecksums, -⟩ := same
  obtain ⟨isVerbose, isPort, isInitial, isTarget, isTimeout, isResponse, isDelay, isClock,
    isRegister, isVerified⟩ := follows
  exact ⟨verbose ▸ isVerbose, port ▸ isPort, initialBaud ▸ isInitial, targetBaud ▸ isTarget,
    readTimeout ▸ isTimeout, maxResponse ▸ isResponse, settleDelay ▸ isDelay, clock ▸ isClock,
    baudRegister ▸ isRegister, verifyChecksums ▸ isVerified⟩

theorem Declared.of_same
    (same : ∀ names ∈ keyNames, given? first names.1 names.2 = given? second names.1 names.2)
    (declared : Declared first) : Declared second := by
  intro named known key among value given
  have names : (named.1, key.1) ∈ keyNames :=
    List.mem_flatMap.mpr ⟨named, known, List.mem_map.mpr ⟨key, among, rfl⟩⟩
  exact declared named known key among value ((same _ names).trans given)

end Document

/-! ## Documents in files -/

/-- A text is a document with these entries, in which each known section is absent or a table. -/
structure Describes (text : String) (entries : Entries) : Prop where
  document : Document text entries
  sectioned : Sectioned entries

namespace Describes

variable {text : String} {entries : Entries} (described : Describes text entries)

include described

/-- A text gives settings that follow its document, if it keeps to the limits of documents. -/
theorem parse?_eq_some_iff {settings : Settings} :
    parse? text = some settings ↔ Readable text ∧ Follows settings entries := by
  by_cases readable : Readable text
  · have parsed := described.document.parse?_eq readable
    rw [parse?, parsed, Option.bind_eq_bind, Option.bind_some,
      ofEntries?_eq_some_iff described.sectioned]
    exact (and_iff_right readable).symm
  · rw [parse?, Toml.parse?_eq_none readable]
    constructor
    · intro same
      cases same
    · exact fun follows => absurd follows.1 readable

theorem regular (readable : Readable text) : entries.Regular .standard :=
  Toml.parseWithin?_regular (described.document.parse?_eq readable)

theorem exists_parse?_iff :
    (∃ settings, parse? text = some settings) ↔ Readable text ∧ Declared entries := by
  simp only [described.parse?_eq_some_iff, exists_and_left]
  apply and_congr_right
  intro readable
  exact exists_follows_iff (described.regular readable)

/-- Texts that give the same known keys, in whatever order and beside whatever else, give the same
settings.  Where these keys hold what they may hold, it takes that both texts keep to the limits of
documents or neither does. -/
theorem parse?_of_perm {otherText : String} {others : Entries} (other : Describes otherText others)
    (limits : Declared entries → (Readable otherText ↔ Readable text))
    (same : (givenKeys others).Perm (givenKeys entries)) : parse? otherText = parse? text := by
  obtain ⟨_, read⟩ := described.document
  obtain ⟨_, otherRead⟩ := other.document
  have equal := given?_eq_of_perm (Toml.parseWithin?_regular otherRead)
    (Toml.parseWithin?_regular read) same
  apply Option.ext
  intro settings
  rw [other.parse?_eq_some_iff, described.parse?_eq_some_iff]
  constructor
  · rintro ⟨readable, follows⟩
    have declared := (exists_follows_iff (other.regular readable)).mp ⟨settings, follows⟩
    exact ⟨(limits (declared.of_same equal)).mp readable, follows.of_same equal⟩
  · rintro ⟨readable, follows⟩
    have declared := (exists_follows_iff (described.regular readable)).mp ⟨settings, follows⟩
    exact ⟨(limits declared).mpr readable,
      follows.of_same fun names known => (equal names known).symm⟩

end Describes

/-- Sections in any order, with any keys and scalars, are a document once they are written, and keep
to the limits. -/
theorem readable_printSections {sections : List Section}
    (wellFormed : ∀ table ∈ sections, table.WellFormed)
    (distinct : ∀ table ∈ sections, table.Distinct)
    (apart : (sections.map Section.name).Nodup) :
    Readable (String.ofList (Toml.printSections sections)) ∧
      Describes (String.ofList (Toml.printSections sections)) (madeOf sections) := by
  have parsed := Toml.parse?_printSections wellFormed distinct apart
  exact ⟨⟨_, parsed⟩, ⟨_, parsed⟩, sectioned_madeOf sections⟩

theorem inTree_of_text {tree : FileTree} {path : FilePath} {text : String}
    (found : tree.find path = .ok (.file (Utf8.encode text))) :
    inTree tree path = (parse? text).elim (.error .malformed) .ok := by
  rw [inTree_of_find found, ofContent, Utf8.decode?_encode]
  dsimp only
  cases parse? text with
  | none => rfl
  | some settings => rfl

variable {Port : Type} [Answering Port]

/-- A text beyond the limits of documents is malformed.  A document whose known sections are tables,
where it has them, loads just where it keeps to the limits and every known key that is there holds
what it may hold.  Then the settings are what the known keys give, and the built-in ones where they
give nothing; else it is malformed.  A document with the same known keys, in whatever order and
beside whatever else, loads alike; where these keys hold what they may hold, it takes that it keeps
to the limits just where the first one does. -/
theorem load_known_keys (path : FilePath) (world : World Port) (text : String)
    (found : world.files.find path = .ok (.file (Utf8.encode text))) :
    let loaded := ((load path : StateM (World Port) _).run world).1
    (¬ Readable text → loaded = .error .malformed) ∧
    ∀ entries, Describes text entries →
      ((∃ settings, loaded = .ok settings) ↔ Readable text ∧ Declared entries) ∧
      (∀ settings, loaded = .ok settings ↔ Readable text ∧ Follows settings entries) ∧
      (¬ (Readable text ∧ Declared entries) → loaded = .error .malformed) ∧
      ∀ (otherPath : FilePath) (otherWorld : World Port) (otherText : String) (others : Entries),
        otherWorld.files.find otherPath = .ok (.file (Utf8.encode otherText)) →
        Describes otherText others → (givenKeys others).Perm (givenKeys entries) →
        (Declared entries → (Readable otherText ↔ Readable text)) →
        ((load otherPath : StateM (World Port) _).run otherWorld).1 = loaded := by
  intro loaded
  have loads : loaded = (parse? text).elim (.error .malformed) .ok := by
    simp only [loaded, run_load, inTree_of_text found]
  have settles (settings : Settings) : loaded = .ok settings ↔ parse? text = some settings := by
    rw [loads]
    cases parse? text <;> simp
  have malformed (nothing : parse? text = none) : loaded = .error .malformed := by
    rw [loads, nothing]
    rfl
  refine ⟨fun unreadable => malformed ?_, fun entries described => ⟨?_, ?_, ?_, ?_⟩⟩
  · rw [parse?, Toml.parse?_eq_none unreadable]
    rfl
  · simp only [settles]
    exact described.exists_parse?_iff
  · intro settings
    rw [settles]
    exact described.parse?_eq_some_iff
  · intro refused
    apply malformed
    apply Option.eq_none_iff_forall_ne_some.mpr
    exact fun settings given => refused (described.exists_parse?_iff.mp ⟨settings, given⟩)
  · intro otherPath otherWorld otherText others otherFound other same limits
    rw [loads, run_load, inTree_of_text otherFound, described.parse?_of_perm other limits same]

/-- Three known keys, each given in another way, among unknown names. -/
def scattered : String :=
  "x = []\nprotocol.verify_checksums = true\n" ++
  "[serial]\ny = 1.5\nport = 'COM3'\ninitial_baud = 4294967295\n"

/-- The same known keys, the other way round. -/
def turned : String :=
  "serial = \x7b initial_baud = 0xFFFF_FFFF, port = \"COM3\" \x7d\n" ++
  "[protocol]\nverify_checksums = true\n"

/-- A rate that does not fit. -/
def tooFast : List Section :=
  [{ name := "serial", entries := [("target_baud", .number 4294967296)] }]

/-- A number that does not fit its key, nor any number. -/
def tooLong : String :=
  "[serial]\nread_timeout_ms = 9223372036854775808\n"

/-- A key without a value. -/
def unfinished : String :=
  "[serial]\nport =\n"

def documents : World Script where
  files.nodes :=
    [ ([Bytes.ascii "scattered"], .file (Utf8.encode scattered)),
      ([Bytes.ascii "turned"], .file (Utf8.encode turned)),
      ([Bytes.ascii "tooFast"], .file (Utf8.encode (String.ofList (Toml.printSections tooFast)))),
      ([Bytes.ascii "tooLong"], .file (Utf8.encode tooLong)),
      ([Bytes.ascii "unfinished"], .file (Utf8.encode unfinished)),
      ([Bytes.ascii "nested"], .file (Utf8.encode (Toml.nestedLine 80))) ]
  port := { replies := [] }

theorem load_known_keys_rearranged :
    let loaded (path : String) :=
      ((load (Bytes.ascii path) : StateM (World Script) _).run documents).1
    loaded "scattered" = .ok
        { line := { port := "COM3", initialBaud := 4294967295 }, verifyChecksums := true } ∧
      loaded "turned" = loaded "scattered" ∧
      loaded "tooFast" = .error .malformed ∧
      loaded "tooLong" = .error .malformed ∧
      loaded "unfinished" = .error .malformed := by
  intro loaded
  have isScattered : Describes scattered
      [("x", .array []), ("protocol", .table .dotted [("verify_checksums", .boolean true)]),
        ("serial", .table .header [("y", .float "1.5"), ("port", .string "COM3"),
          ("initial_baud", .integer 4294967295)])] := by
    refine ⟨⟨.standard, rfl⟩, ?_⟩
    simp [Sectioned, knownKeys, Entries.find?, List.lookup_cons]
  have isTurned : Describes turned
      [("serial", .table .inline [("initial_baud", .integer 4294967295), ("port", .string "COM3")]),
        ("protocol", .table .header [("verify_checksums", .boolean true)])] := by
    refine ⟨⟨.standard, rfl⟩, ?_⟩
    simp [Sectioned, knownKeys, Entries.find?, List.lookup_cons]
  have isTooLong : Describes tooLong
      [("serial", .table .header [("read_timeout_ms", .integer 9223372036854775808)])] := by
    refine ⟨⟨{ Toml.Limits.standard with number := 2 ^ 64 }, rfl⟩, ?_⟩
    simp [Sectioned, knownKeys, Entries.find?, List.lookup_cons]
  have readable : Readable scattered := ⟨_, rfl⟩
  obtain ⟨-, settles, -, alike⟩ :=
    (load_known_keys (Bytes.ascii "scattered") documents scattered (by decide +kernel)).2 _
      isScattered
  refine ⟨?_, ?_, ?_, ?_, ?_⟩
  · apply (settles _).mpr
    exact ⟨readable,
      { verbose := .absent
        port := .given "COM3"
        initialBaud := .given 4294967295
        targetBaud := .absent
        readTimeout := .absent
        maxResponse := .absent
        settleDelay := .absent
        clock := .absent
        baudRegister := .absent
        verifyChecksums := .given true }⟩
  · refine alike (Bytes.ascii "turned") documents turned _ (by decide +kernel) isTurned ?_ ?_
    · exact List.reverse_perm
        [(("protocol", "verify_checksums"), Value.boolean true),
          (("serial", "port"), .string "COM3"), (("serial", "initial_baud"), .integer 4294967295)]
    · exact fun _ => iff_of_true ⟨_, rfl⟩ readable
  · have wellFormed : ∀ table ∈ tooFast, table.WellFormed :=
      List.forall_mem_singleton.mpr
        ⟨by decide, List.forall_mem_singleton.mpr ⟨by decide, by decide⟩⟩
    have distinct : ∀ table ∈ tooFast, table.Distinct :=
      List.forall_mem_singleton.mpr (List.nodup_singleton _)
    have described := (readable_printSections wellFormed distinct (List.nodup_singleton _)).2
    obtain ⟨-, -, refused, -⟩ :=
      (load_known_keys (Bytes.ascii "tooFast") documents _ (by decide +kernel)).2 _ described
    apply refused
    rintro ⟨-, declared⟩
    have fits := declared _ (.tail _ (.head _)) _ (.tail _ (.tail _ (.head _))) _ rfl
    exact absurd fits.2 (by decide)
  · obtain ⟨-, -, refused, -⟩ :=
      (load_known_keys (Bytes.ascii "tooLong") documents _ (by decide +kernel)).2 _ isTooLong
    apply refused
    rintro ⟨-, declared⟩
    have fits := declared _ (.tail _ (.head _)) _ (.tail _ (.tail _ (.tail _ (.head _)))) _ rfl
    exact absurd fits.2 (by decide)
  · have refused : Toml.parseWithin? .standard unfinished = none := rfl
    apply (load_known_keys (Bytes.ascii "unfinished") documents unfinished (by decide +kernel)).1
    rintro ⟨entries, read⟩
    rw [refused] at read
    cases read

/-- Eighty lists in each other are a document without any known key, and it does not load. -/
theorem load_nested_malformed :
    let entries : Entries := [("x", Toml.nested 80)]
    documents.files.find (Bytes.ascii "nested") = .ok (.file (Utf8.encode (Toml.nestedLine 80))) ∧
      Describes (Toml.nestedLine 80) entries ∧ Declared entries ∧ givenKeys entries = [] ∧
      ((load (Bytes.ascii "nested") : StateM (World Script) _).run documents).1 =
        .error .malformed := by
  intro entries
  have found : documents.files.find (Bytes.ascii "nested") =
      .ok (.file (Utf8.encode (Toml.nestedLine 80))) := by decide +kernel
  have beyond := Toml.parseWithin?_nestedLine .standard 80 (by decide)
  have wider :=
    Toml.parseWithin?_nestedLine { Toml.Limits.standard with depth := 80 } 80 (by decide)
  rw [if_neg (by decide)] at beyond
  rw [if_pos (by decide)] at wider
  refine ⟨found, ⟨⟨_, wider⟩, ?_⟩, ?_, rfl, ?_⟩
  · simp [entries, Sectioned, knownKeys, Entries.find?, List.lookup_cons]
  · simp [entries, Declared, knownKeys, given?, Entries.find?, List.lookup_cons]
  · rw [run_load, inTree_of_text found, parse?, Toml.parse?, beyond]
    rfl

end BaudSwitch.Settings
