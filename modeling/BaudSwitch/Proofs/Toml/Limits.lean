import BaudSwitch.Toml.Parser

/-!
# Documents and limits

A reader within wider limits reads what one within narrower limits does, and in the same way.  So
a document has one meaning, whatever the limits are that it is read within, and the standard ones
only decide whether it is read at all.
-/

namespace BaudSwitch.Toml

/-! ## The order of results -/

/-- No result lies below every other, and a result below itself alone. -/
def Below {Kind : Type} (narrow wide : Option Kind) : Prop :=
  ∀ result, narrow = some result → wide = some result

namespace Below

variable {Kind First Second : Type}

theorem refl (result : Option Kind) : Below result result := fun _ found => found

theorem none (wide : Option Kind) : Below .none wide := nofun

theorem trans {narrow between wide : Option Kind} (first : Below narrow between)
    (second : Below between wide) : Below narrow wide := fun result found =>
  second result (first result found)

theorem bind {narrow wide : Option First} {narrowNext wideNext : First → Option Second}
    (first : Below narrow wide)
    (second : ∀ between, Below (narrowNext between) (wideNext between)) :
    Below (narrow >>= narrowNext) (wide >>= wideNext) := by
  intro result found
  obtain ⟨between, isFirst, isSecond⟩ := Option.bind_eq_some_iff.mp found
  exact Option.bind_eq_some_iff.mpr
    ⟨between, first between isFirst, second between result isSecond⟩

end Below

/-- Limits that are no wider than others. -/
structure Limits.Inside (narrow wide : Limits) : Prop where
  depth : narrow.depth ≤ wide.depth
  names : narrow.names ≤ wide.names
  number : narrow.number ≤ wide.number
  finite : wide.infinite = false → narrow.infinite = false

/-- Any two limits are inside of others. -/
theorem Limits.exists_around (first second : Limits) :
    ∃ wide, first.Inside wide ∧ second.Inside wide :=
  ⟨{ depth := max first.depth second.depth
     names := max first.names second.names
     number := max first.number second.number
     infinite := true },
    ⟨Nat.le_max_left .., Nat.le_max_left .., Nat.le_max_left .., nofun⟩,
    ⟨Nat.le_max_right .., Nat.le_max_right .., Nat.le_max_right .., nofun⟩⟩

/-! ## Keys and scalars -/

theorem readNames_below {fewer more : Nat} (bound : fewer ≤ more) (input : List Char) :
    Below (readNames fewer input) (readNames more input) := by
  induction fewer generalizing more input with
  | zero => exact .none _
  | succ fewer inductionHypothesis =>
      obtain ⟨more, rfl⟩ := Nat.exists_eq_add_of_lt bound
      refine .bind (.refl _) fun ⟨name, rest⟩ => ?_
      dsimp only
      split
      next => exact .bind (inductionHypothesis (by omega) _) fun _ => .refl _
      next => exact .refl _

section Readers

variable {narrow wide : Limits} (inside : narrow.Inside wide)

include inside

theorem readKey_below (input : List Char) :
    Below (readKey narrow input) (readKey wide input) :=
  .bind (readNames_below inside.names input) fun _ => .refl _

namespace Number

theorem integer?_below (number : Int) :
    Below (integer? narrow number) (integer? wide number) := by
  have bound := inside.number
  unfold integer?
  split
  next fits =>
    rw [if_pos (by omega)]
    exact .refl _
  next => exact .none _

theorem inBase_below (base : Nat) (accepts : Char → Bool) (input : List Char) :
    Below (inBase narrow base accepts input) (inBase wide base accepts input) :=
  .bind (.refl _) fun _ => .bind (integer?_below inside _) fun _ => .refl _

theorem decimal_below (input : List Char) :
    Below (decimal narrow input) (decimal wide input) := by
  unfold decimal
  dsimp only
  split
  next => exact .refl _
  next => exact .refl _
  next =>
    refine .bind (.refl _) fun ⟨whole, afterWhole⟩ => .bind (.refl _) fun ⟨part, afterPart⟩ =>
      .bind (.refl _) fun ⟨power, rest⟩ => ?_
    dsimp only
    split
    next => exact .bind (integer?_below inside _) fun _ => .refl _
    next =>
      split
      next => exact .none _
      next fits =>
        have wider : ¬ (!wide.infinite && !(sign input).1 &&
            overflows (ofDigits 10 (whole ++ part)) (power - part.length)) = true := by
          simp only [Bool.and_eq_true, Bool.not_eq_true'] at fits ⊢
          exact fun ⟨⟨finite, positive⟩, large⟩ => fits ⟨⟨inside.finite finite, positive⟩, large⟩
        rw [if_neg wider]
        exact .refl _

theorem read_below (input : List Char) : Below (read narrow input) (read wide input) := by
  unfold read
  split
  · exact inBase_below inside _ _ _
  · exact inBase_below inside _ _ _
  · exact inBase_below inside _ _ _
  · exact decimal_below inside _

end Number

theorem readScalar_below (input : List Char) :
    Below (readScalar narrow input) (readScalar wide input) := by
  unfold readScalar
  split
  next => exact .refl _
  next => exact .refl _
  next =>
    split
    next => exact .refl _
    next => exact .refl _
    next =>
      split
      next => exact .refl _
      next => exact Number.read_below inside _

end Readers

/-! ## Values in values -/

section Nested

variable {narrow wide : Limits} (inside : narrow.Inside wide)
  {readNarrow readWide : List Char → Option (Value × List Char)}
  (reads : ∀ input, Below (readNarrow input) (readWide input))

include reads

theorem readItems_below (limit : Nat) (input : List Char) :
    Below (readItems readNarrow limit input) (readItems readWide limit input) := by
  induction limit generalizing input with
  | zero => exact .none _
  | succ limit inductionHypothesis =>
      refine .bind (.refl _) fun start => ?_
      split
      next => exact .refl _
      next =>
        refine .bind (reads _) fun ⟨value, rest⟩ => .bind (.refl _) fun next => ?_
        split
        next => exact .bind (inductionHypothesis _) fun _ => .refl _
        next => exact .refl _
        next => exact .none _

include inside

theorem readAssignment_below (input : List Char) :
    Below (readAssignment narrow readNarrow input) (readAssignment wide readWide input) :=
  .bind (readKey_below inside _) fun _ => .bind (.refl _) fun _ => .bind (reads _) fun _ => .refl _

theorem readAssignments_below (limit : Nat) (input : List Char) :
    Below (readAssignments narrow readNarrow limit input)
      (readAssignments wide readWide limit input) := by
  induction limit generalizing input with
  | zero => exact .none _
  | succ limit inductionHypothesis =>
      refine .bind (readAssignment_below inside reads _) fun ⟨first, rest⟩ => ?_
      dsimp only
      split
      next => exact .bind (inductionHypothesis _) fun _ => .refl _
      next => exact .refl _
      next => exact .none _

theorem readInline_below (input : List Char) :
    Below (readInline narrow readNarrow input) (readInline wide readWide input) := by
  unfold readInline
  split
  next => exact .refl _
  next => exact .bind (readAssignments_below inside reads _ _) fun _ => .refl _

end Nested

/-- No scalar begins with a bracket or a brace. -/
theorem readScalar_opening (limits : Limits) {opening : Char}
    (opens : opening = '[' ∨ opening = '\x7b') (rest : List Char) :
    readScalar limits (opening :: rest) = none := by
  rcases opens with rfl | rfl
  · have noDate : DateTime.begins ('[' :: rest) = false := by
      simp [DateTime.begins, DateTime.field, Number.isDigit]
    have noNumber : Number.read limits ('[' :: rest) = none := rfl
    simp [readScalar, noDate, noNumber]
  · have noDate : DateTime.begins ('\x7b' :: rest) = false := by
      simp [DateTime.begins, DateTime.field, Number.isDigit]
    have noNumber : Number.read limits ('\x7b' :: rest) = none := rfl
    simp [readScalar, noDate, noNumber]

/-- Where a scalar is read, it is read as a value of any depth. -/
theorem readScalar_below_readValue (limits : Limits) (depth : Nat) (input : List Char) :
    Below (readScalar limits input) (readValue limits depth input) := by
  unfold readValue
  split
  next =>
    rw [readScalar_opening limits (.inl rfl)]
    exact .none _
  next =>
    rw [readScalar_opening limits (.inr rfl)]
    exact .none _
  next => exact .refl _

theorem readValue_below {narrow wide : Limits} (inside : narrow.Inside wide) {shallow deep : Nat}
    (deeper : shallow ≤ deep) (input : List Char) :
    Below (readValue narrow shallow input) (readValue wide deep input) := by
  induction shallow generalizing deep input with
  | zero =>
      exact (readScalar_below inside input).trans (readScalar_below_readValue wide deep input)
  | succ shallow inductionHypothesis =>
      obtain ⟨deep, rfl⟩ := Nat.exists_eq_add_of_lt deeper
      have below := fun input => @inductionHypothesis (shallow + deep) (by omega) input
      have scalar := (readScalar_below inside input).trans
        (readScalar_below_readValue wide (shallow + deep + 1) input)
      unfold readValue at scalar ⊢
      split
      next _ _ _ _ same =>
        cases same
        exact .bind (readItems_below below _ _) fun _ => .refl _
      next _ _ _ _ same =>
        cases same
        exact readInline_below inside below _
      next => exact scalar

/-! ## Whole documents -/

section Documents

variable {narrow wide : Limits} (inside : narrow.Inside wide)

include inside

theorem readItem_below (input : List Char) :
    Below (readItem narrow input) (readItem wide input) := by
  unfold readItem
  split
  next => exact .bind (readKey_below inside _) fun _ => .refl _
  next => exact .bind (readKey_below inside _) fun _ => .refl _
  next =>
    refine .bind (readAssignment_below inside ?_ _) fun _ => .refl _
    exact fun _ => readValue_below inside inside.depth _

theorem readLines_below (limit : Nat) (input : List Char) :
    Below (readLines narrow limit input) (readLines wide limit input) := by
  induction limit generalizing input with
  | zero => exact .none _
  | succ limit inductionHypothesis =>
      unfold readLines
      split
      next => exact .refl _
      next =>
        split
        next => exact inductionHypothesis _
        next =>
          refine .bind (readItem_below inside _) fun ⟨item, rest⟩ => .bind (.refl _) fun next => ?_
          exact .bind (inductionHypothesis _) fun _ => .refl _

/-- What is read within some limits is read within wider ones, and is the same there. -/
theorem parseWithin?_below (text : String) :
    Below (parseWithin? narrow text) (parseWithin? wide text) :=
  .bind (readLines_below inside _ _) fun _ => .refl _

end Documents

/-- A text is a document with these entries if some limits are wide enough to read it. -/
def Document (text : String) (entries : Entries) : Prop :=
  ∃ limits, parseWithin? limits text = some entries

/-- A text is a document that keeps to the standard limits: its whole numbers have 64 bits, no
number above zero rounds to infinity, lists and inline tables stand at most 79 deep in each other,
and no dotted key has more than 79 names. -/
def Readable (text : String) : Prop :=
  ∃ entries, parseWithin? .standard text = some entries

section Texts

variable {text : String} {entries others : Entries}

/-- A document has one meaning. -/
theorem Document.unique (first : Document text entries) (second : Document text others) :
    entries = others := by
  obtain ⟨limitsFirst, readFirst⟩ := first
  obtain ⟨limitsSecond, readSecond⟩ := second
  obtain ⟨wide, insideFirst, insideSecond⟩ := limitsFirst.exists_around limitsSecond
  have wideFirst := parseWithin?_below insideFirst text entries readFirst
  have wideSecond := parseWithin?_below insideSecond text others readSecond
  exact Option.some.inj (wideFirst.symm.trans wideSecond)

theorem Document.parse?_eq (document : Document text entries) (readable : Readable text) :
    parse? text = some entries := by
  obtain ⟨others, read⟩ := readable
  obtain rfl := document.unique ⟨_, read⟩
  exact read

theorem parse?_eq_none (unreadable : ¬ Readable text) : parse? text = none := by
  apply Option.eq_none_iff_forall_ne_some.mpr
  exact fun entries read => unreadable ⟨entries, read⟩

end Texts

/-! ## Lists in lists -/

/-- So many lists in each other, with one value in the innermost. -/
def nested : Nat → Value
  | 0 => .boolean true
  | count + 1 => .array [nested count]

def printNested : Nat → List Char
  | 0 => "true".toList
  | count + 1 => '[' :: (printNested count ++ [']'])

/-- A line that gives lists in each other to a key. -/
def nestedLine (count : Nat) : String :=
  String.ofList ("x = ".toList ++ printNested count)

section Lists

variable (limits : Limits) (count : Nat) (rest : List Char)

theorem head?_printNested :
    ∃ first, (printNested count ++ rest).head? = some first ∧ (first = '[' ∨ first = 't') := by
  cases count with
  | zero => exact ⟨'t', rfl, .inr rfl⟩
  | succ count => exact ⟨'[', rfl, .inl rfl⟩

/-- A list whose bracket closes behind its first value is read if that value is. -/
theorem readItems_one {readValue : List Char → Option (Value × List Char)} {input : List Char}
    {first : Char} (begins : input.head? = some first) (visible : first = '[' ∨ first = 't')
    (closes : ∀ value after, readValue input = some (value, after) → after = ']' :: rest)
    (limit : Nat) :
    readItems readValue (limit + 1) input =
      (readValue input).map fun read => ([read.1], rest) := by
  obtain ⟨later, rfl⟩ := List.head?_eq_some_iff.mp begins
  have skipped : skipFiller false (first :: later) = some (first :: later) := by
    rcases visible with rfl | rfl
    · rfl
    · rfl
  rw [readItems, skipped, Option.bind_eq_bind, Option.bind_some]
  split
  next same =>
    cases same
    exact absurd visible (by decide)
  next =>
    cases read : readValue (first :: later) with
    | none => rfl
    | some taken =>
        obtain ⟨value, after⟩ := taken
        obtain rfl := closes value after read
        rfl

/-- As many lists are read in each other as the depth says, and no more. -/
theorem readValue_printNested (depth : Nat) :
    readValue limits depth (printNested count ++ rest) =
      if count ≤ depth then some (nested count, rest) else none := by
  induction count generalizing depth rest with
  | zero =>
      rw [if_pos (Nat.zero_le depth)]
      exact readScalar_below_readValue limits depth _ _ rfl
  | succ count inductionHypothesis =>
      have layout : printNested (count + 1) ++ rest =
          '[' :: (printNested count ++ ']' :: rest) := by
        simp [printNested]
      rw [layout]
      cases depth with
      | zero => exact readScalar_opening limits (.inl rfl) _
      | succ depth =>
          obtain ⟨first, begins, visible⟩ := head?_printNested count (']' :: rest)
          have item := inductionHypothesis (']' :: rest) depth
          rw [readValue, readItems_one rest begins visible, item]
          · by_cases fits : count ≤ depth
            · rw [if_pos fits, if_pos (Nat.succ_le_succ fits)]
              rfl
            · rw [if_neg fits, if_neg fun fitting => fits (Nat.le_of_succ_le_succ fitting)]
              rfl
          · intro value after read
            rw [item, Option.ite_none_right_eq_some] at read
            cases read.2
            rfl

theorem parseWithin?_nestedLine (named : 0 < limits.names) :
    parseWithin? limits (nestedLine count) =
      if count ≤ limits.depth then some [("x", nested count)] else none := by
  have keyRead (later : List Char) :
      readKey limits ("x = ".toList ++ later) = some (⟨[], "x"⟩, '=' :: ' ' :: later) := by
    obtain ⟨more, same⟩ := Nat.exists_eq_add_of_lt named
    rw [readKey, same]
    rfl
  have begins : skipBlanks (' ' :: printNested count) = printNested count := by
    obtain ⟨first, begins, visible⟩ := head?_printNested count []
    rw [List.append_nil] at begins
    obtain ⟨later, spelled⟩ := List.head?_eq_some_iff.mp begins
    rw [spelled]
    rcases visible with rfl | rfl
    · rfl
    · rfl
  have valueRead := readValue_printNested limits count [] limits.depth
  rw [List.append_nil] at valueRead
  have assigned : readAssignment limits (readValue limits limits.depth)
      ("x = ".toList ++ printNested count) =
        if count ≤ limits.depth then some ((⟨[], "x"⟩, nested count), []) else none := by
    rw [readAssignment, keyRead]
    change (readValue limits limits.depth (skipBlanks (' ' :: printNested count))).bind _ = _
    rw [begins, valueRead]
    split
    · rfl
    · rfl
  unfold parseWithin? nestedLine
  rw [String.toList_ofList]
  change ((Option.bind (readAssignment limits (readValue limits limits.depth)
    ("x = ".toList ++ printNested count)) _).bind _).bind _ = _
  rw [assigned]
  split
  · rfl
  · rfl

end Lists

end BaudSwitch.Toml
