import BaudSwitch.Hex

/-!
# Digits and octets

Reading a digit gives back the number it was written for, and the two digits of an octet give
back the octet.  What is read as a digit at all is what the table of digits lists, and two digits
are refused for the first of them that is none.
-/

namespace BaudSwitch.Hex

@[simp]
theorem value?_digit {number : UInt8} (small : number < 16) :
    value? (digit number) = some number := by
  by_cases decimal : number < 10
  · have inDecimals : (0x30 : UInt8) ≤ 0x30 + number ∧ 0x30 + number ≤ 0x39 := by grind
    rw [digit, if_pos decimal, value?, if_pos inDecimals, UInt8.add_comm, UInt8.add_sub_cancel]
  · have pastDecimals : ¬((0x30 : UInt8) ≤ 0x57 + number ∧ 0x57 + number ≤ 0x39) := by grind
    have inLetters : (0x61 : UInt8) ≤ 0x57 + number ∧ 0x57 + number ≤ 0x66 := by grind
    rw [digit, if_neg decimal, value?, if_neg pastDecimals, if_pos inLetters, UInt8.add_comm,
      UInt8.add_sub_cancel]

theorem value_digit {number : UInt8} (small : number < 16) :
    value (digit number) = .ok number := by
  rw [value, value?_digit small]

theorem upperHalf_lt (octet : UInt8) : octet / 16 < 16 := by
  grind

theorem lowerHalf_lt (octet : UInt8) : octet % 16 < 16 := by
  grind

theorem join_halves (octet : UInt8) : octet / 16 * 16 + octet % 16 = octet := by
  grind

@[simp]
theorem decodeOctet_digits (octet : UInt8) :
    decodeOctet (digit (octet / 16)) (digit (octet % 16)) = .ok octet := by
  rw [decodeOctet, value_digit (upperHalf_lt octet), value_digit (lowerHalf_lt octet)]
  exact congrArg Except.ok (join_halves octet)

/-- The digits in either case, with the numbers they stand for. -/
inductive Digit : UInt8 → UInt8 → Prop where
  | decimal {octet : UInt8} : 0x30 ≤ octet → octet ≤ 0x39 → Digit octet (octet - 0x30)
  | lower {octet : UInt8} : 0x61 ≤ octet → octet ≤ 0x66 → Digit octet (octet - 0x61 + 10)
  | upper {octet : UInt8} : 0x41 ≤ octet → octet ≤ 0x46 → Digit octet (octet - 0x41 + 10)

theorem value?_eq_some_iff {octet number : UInt8} :
    value? octet = some number ↔ Digit octet number := by
  have lowerOffset : octet - 0x61 + 10 = octet - 0x57 := by grind
  have upperOffset : octet - 0x41 + 10 = octet - 0x37 := by grind
  constructor
  · intro read
    unfold value? at read
    split at read
    next inRange =>
      cases read
      exact .decimal inRange.1 inRange.2
    next =>
      split at read
      next inRange =>
        cases read
        rw [← lowerOffset]
        exact .lower inRange.1 inRange.2
      next =>
        split at read
        next inRange =>
          cases read
          rw [← upperOffset]
          exact .upper inRange.1 inRange.2
        next => cases read
  · intro digit
    unfold value?
    cases digit with
    | decimal least most => rw [if_pos ⟨least, most⟩]
    | lower least most =>
        rw [if_neg (by grind), if_pos ⟨least, most⟩, lowerOffset]
    | upper least most =>
        rw [if_neg (by grind), if_neg (by grind), if_pos ⟨least, most⟩, upperOffset]

theorem Digit.toNat_lt {octet number : UInt8} (digit : Digit octet number) :
    number.toNat < 16 := by
  have small : number < 16 := by
    cases digit <;> grind
  exact UInt8.lt_iff_toNat_lt.mp small

theorem Digit.value_eq {octet number : UInt8} (digit : Digit octet number) :
    value octet = .ok number := by
  rw [value, value?_eq_some_iff.mpr digit]

theorem value_of_noDigit {octet : UInt8} (noDigit : ∀ number, ¬ Digit octet number) :
    value octet = .error (.invalidDigit octet) := by
  have unread : value? octet = none := by
    apply Option.eq_none_iff_forall_ne_some.mpr
    intro number read
    exact noDigit number (value?_eq_some_iff.mp read)
  rw [value, unread]

/-! ## Digits in either case -/

/-- A small letter as a capital; what is no small letter stays. -/
def upperCase (octet : UInt8) : UInt8 :=
  if 0x61 ≤ octet ∧ octet ≤ 0x7A then octet - 0x20 else octet

theorem digit_upperHalf (octet : UInt8) : Digit (digit (octet / 16)) (octet / 16) :=
  value?_eq_some_iff.mp (value?_digit (upperHalf_lt octet))

theorem digit_lowerHalf (octet : UInt8) : Digit (digit (octet % 16)) (octet % 16) :=
  value?_eq_some_iff.mp (value?_digit (lowerHalf_lt octet))

theorem digit_upperCase {octet number : UInt8} (digit : Digit octet number) :
    Digit (upperCase octet) number := by
  cases digit with
  | decimal least most =>
      rw [upperCase, if_neg (by grind)]
      exact .decimal least most
  | lower least most =>
      have capital : octet - 0x61 + 10 = octet - 0x20 - 0x41 + 10 := by grind
      rw [upperCase, if_pos (by grind), capital]
      apply Digit.upper <;> grind
  | upper least most =>
      rw [upperCase, if_neg (by grind)]
      exact .upper least most

/-- A number has one digit, and in upper case one more if that is a letter. -/
theorem Digit.eq_or_eq_upperCase {octet number : UInt8} (digit : Digit octet number) :
    octet = Hex.digit number ∨ octet = upperCase (Hex.digit number) := by
  cases digit with
  | decimal least most =>
      rw [Hex.digit, if_pos (by grind)]
      grind
  | lower least most =>
      rw [Hex.digit, if_neg (by grind)]
      grind
  | upper least most =>
      rw [Hex.digit, if_neg (by grind), upperCase, if_pos (by grind)]
      grind

section Octet

variable {high low upper lower : UInt8}

theorem decodeOctet_of_digits (first : Digit high upper) (second : Digit low lower) :
    decodeOctet high low = .ok (upper * 16 + lower) := by
  rw [decodeOctet, first.value_eq, second.value_eq]
  rfl

theorem decodeOctet_of_bad_high (noDigit : ∀ number, ¬ Digit high number) :
    decodeOctet high low = .error (.invalidDigit high) := by
  rw [decodeOctet, value_of_noDigit noDigit]
  rfl

theorem decodeOctet_of_bad_low (first : Digit high upper) (noDigit : ∀ number, ¬ Digit low number) :
    decodeOctet high low = .error (.invalidDigit low) := by
  rw [decodeOctet, first.value_eq, value_of_noDigit noDigit]
  rfl

/-- Two digits never overflow the octet they spell. -/
theorem toNat_octet_of_digits (first : Digit high upper) (second : Digit low lower) :
    (upper * 16 + lower).toNat = 16 * upper.toNat + lower.toNat := by
  have upperBound := first.toNat_lt
  have lowerBound := second.toNat_lt
  have sixteen : (16 : UInt8).toNat = 16 := rfl
  rw [UInt8.toNat_add, UInt8.toNat_mul, sixteen]
  omega

end Octet

/-! ## Runs of octets -/

theorem decodePairs_encode (bytes : Bytes) : decodePairs (encode bytes) = .ok bytes := by
  induction bytes with
  | nil => rfl
  | cons octet rest inductionHypothesis =>
      have pair : encode (octet :: rest) =
          digit (octet / 16) :: digit (octet % 16) :: encode rest := rfl
      rw [pair, decodePairs, decodeOctet_digits, inductionHypothesis]
      rfl

@[simp]
theorem length_encode (bytes : Bytes) : (encode bytes).length = 2 * bytes.length := by
  induction bytes with
  | nil => rfl
  | cons octet rest inductionHypothesis =>
      have pair : encode (octet :: rest) = encodeOctet octet ++ encode rest := rfl
      rw [pair, List.length_append, inductionHypothesis, List.length_cons]
      simp only [encodeOctet, List.length_cons, List.length_nil]
      omega

theorem decode_encode (bytes : Bytes) : decode (encode bytes) = .ok bytes := by
  have even : (encode bytes).length % 2 ≠ 1 := by
    rw [length_encode]
    omega
  rw [decode, if_neg even, decodePairs_encode]

theorem encode_injective : Function.Injective encode := by
  intro first second same
  have read := congrArg decodePairs same
  rw [decodePairs_encode, decodePairs_encode] at read
  exact Except.ok.inj read

/-! ## What reading says of a run -/

/-- A capital that is a digit as a small letter; what is none stays. -/
def lowerCase (octet : UInt8) : UInt8 :=
  if 0x41 ≤ octet ∧ octet ≤ 0x46 then octet + 0x20 else octet

def IsDigit (octet : UInt8) : Prop :=
  ∃ number, Digit octet number

/-- What is to be said of a run of octets: an odd length comes first, then the leftmost octet that
is no digit, and a run that has neither spells the octets that are written like it. -/
inductive Reading : Bytes → Except Error Bytes → Prop where
  | odd {digits} : digits.length % 2 = 1 → Reading digits (.error (.oddLength digits.length))
  | stray {before octet after} : (before ++ octet :: after).length % 2 = 0 →
      (∀ earlier ∈ before, IsDigit earlier) → ¬ IsDigit octet →
      Reading (before ++ octet :: after) (.error (.invalidDigit octet))
  | digits {digits bytes} : digits.length % 2 = 0 → (∀ octet ∈ digits, IsDigit octet) →
      encode bytes = digits.map lowerCase → Reading digits (.ok bytes)

/-- The lower-case digit of what a digit stands for is the digit in lower case. -/
theorem Digit.lowerCase_eq {octet number : UInt8} (digit : Digit octet number) :
    Hex.digit number = lowerCase octet := by
  unfold Hex.digit lowerCase
  cases digit <;> grind

theorem encode_cons_of_digits {high low upper lower : UInt8} (first : Digit high upper)
    (second : Digit low lower) (bytes : Bytes) :
    encode ((upper * 16 + lower) :: bytes) = lowerCase high :: lowerCase low :: encode bytes := by
  have upperBound := first.toNat_lt
  have lowerBound := second.toNat_lt
  have spelled := toNat_octet_of_digits first second
  have upperHalf : (upper * 16 + lower) / 16 = upper := by
    apply UInt8.toNat_inj.mp
    rw [UInt8.toNat_div, spelled]
    exact (by omega : (16 * upper.toNat + lower.toNat) / 16 = upper.toNat)
  have lowerHalf : (upper * 16 + lower) % 16 = lower := by
    apply UInt8.toNat_inj.mp
    rw [UInt8.toNat_mod, spelled]
    exact (by omega : (16 * upper.toNat + lower.toNat) % 16 = lower.toNat)
  simp [encode, encodeOctet, upperHalf, lowerHalf, first.lowerCase_eq, second.lowerCase_eq]

theorem decodePairs_cons {high low upper lower : UInt8} (first : Digit high upper)
    (second : Digit low lower) (rest : Bytes) :
    decodePairs (high :: low :: rest) = (decodePairs rest).map ((upper * 16 + lower) :: ·) := by
  rw [decodePairs, decodeOctet_of_digits first second]
  rfl

theorem decodePairs_of_digits {digits : Bytes} (even : digits.length % 2 = 0)
    (all : ∀ octet ∈ digits, IsDigit octet) :
    ∃ bytes, decodePairs digits = .ok bytes ∧ encode bytes = digits.map lowerCase := by
  match digits, even, all with
  | [], _, _ => exact ⟨[], rfl, rfl⟩
  | high :: low :: rest, even, all =>
      obtain ⟨⟨upper, first⟩, ⟨lower, second⟩, others⟩ :
          IsDigit high ∧ IsDigit low ∧ ∀ octet ∈ rest, IsDigit octet := by simpa using all
      have evenRest : rest.length % 2 = 0 := by
        simp only [List.length_cons] at even
        omega
      obtain ⟨bytes, read, written⟩ := decodePairs_of_digits evenRest others
      refine ⟨(upper * 16 + lower) :: bytes, ?_, ?_⟩
      · simp [decodePairs_cons first second, read, Except.map]
      · simp [encode_cons_of_digits first second, written]

/-- The octet may be the first or the second of its pair. -/
theorem decodePairs_of_stray {before after : Bytes} {octet : UInt8}
    (even : (before ++ octet :: after).length % 2 = 0)
    (earlier : ∀ digit ∈ before, IsDigit digit) (stray : ¬ IsDigit octet) :
    decodePairs (before ++ octet :: after) = .error (.invalidDigit octet) := by
  have noDigit : ∀ number, ¬ Digit octet number := not_exists.mp stray
  match before, after, even, earlier with
  | [], low :: rest, _, _ =>
      simp only [List.nil_append, decodePairs, decodeOctet_of_bad_high noDigit]
      rfl
  | [high], after, _, earlier =>
      obtain ⟨upper, first⟩ := earlier high List.mem_cons_self
      simp only [List.cons_append, List.nil_append, decodePairs,
        decodeOctet_of_bad_low first noDigit]
      rfl
  | high :: low :: before, after, even, earlier =>
      obtain ⟨⟨upper, first⟩, ⟨lower, second⟩, others⟩ :
          IsDigit high ∧ IsDigit low ∧ ∀ digit ∈ before, IsDigit digit := by simpa using earlier
      have evenRest : (before ++ octet :: after).length % 2 = 0 := by
        simp only [List.cons_append, List.length_cons] at even
        omega
      simp only [List.cons_append, decodePairs_cons first second,
        decodePairs_of_stray evenRest others stray]
      rfl

theorem decode_of_even {digits : Bytes} (even : digits.length % 2 = 0) :
    decode digits = decodePairs digits := by
  apply if_neg
  omega

theorem Reading.decode_eq {digits : Bytes} {result : Except Error Bytes}
    (reading : Reading digits result) : decode digits = result := by
  cases reading with
  | odd odd => exact if_pos odd
  | stray even earlier stray =>
      simp only [decode_of_even even, decodePairs_of_stray even earlier stray]
  | digits even all written =>
      obtain ⟨bytes, read, alsoWritten⟩ := decodePairs_of_digits even all
      obtain rfl := encode_injective (written.trans alsoWritten.symm)
      simp only [decode_of_even even, read]

theorem digits_or_stray (run : Bytes) : (∀ octet ∈ run, IsDigit octet) ∨
    ∃ before octet after, run = before ++ octet :: after ∧
      (∀ earlier ∈ before, IsDigit earlier) ∧ ¬ IsDigit octet := by
  induction run with
  | nil => exact .inl nofun
  | cons first rest inductionHypothesis =>
      by_cases digit : IsDigit first
      · rcases inductionHypothesis with all | ⟨before, octet, after, rfl, earlier, stray⟩
        · exact .inl (List.forall_mem_cons.mpr ⟨digit, all⟩)
        · exact .inr ⟨first :: before, octet, after, rfl,
            List.forall_mem_cons.mpr ⟨digit, earlier⟩, stray⟩
      · exact .inr ⟨[], first, rest, rfl, nofun, digit⟩

/-- There is something to be said of every run. -/
theorem exists_reading (run : Bytes) : ∃ result, Reading run result := by
  by_cases odd : run.length % 2 = 1
  · exact ⟨_, .odd odd⟩
  · have even : run.length % 2 = 0 := by omega
    rcases digits_or_stray run with all | ⟨before, octet, after, rfl, earlier, stray⟩
    · obtain ⟨bytes, -, written⟩ := decodePairs_of_digits even all
      exact ⟨_, .digits even all written⟩
    · exact ⟨_, .stray even earlier stray⟩

theorem decode_eq_iff {run : Bytes} {result : Except Error Bytes} :
    decode run = result ↔ Reading run result := by
  constructor
  · rintro rfl
    obtain ⟨result, reading⟩ := exists_reading run
    exact reading.decode_eq.symm ▸ reading
  · exact Reading.decode_eq

end BaudSwitch.Hex
