import BaudSwitch.Proofs.Decimal
import BaudSwitch.Proofs.Toml.Quoted
import BaudSwitch.Toml.Parser

/-!
# Values read back

A value that was written is read as itself where its line ends.  A number must not be taken for
the beginning of a date or for a number in another base, which its digits and the line end behind
them rule out.
-/

namespace BaudSwitch.Toml

/-- The value that is written. -/
def Scalar.value : Scalar → Value
  | .text content => .string content
  | .number amount => .integer amount
  | .flag on => .boolean on

/-- Numbers that a document can hold. -/
def Scalar.Fits : Scalar → Prop
  | .number amount => amount < numberBound
  | _ => True

instance (scalar : Scalar) : Decidable scalar.Fits := by
  unfold Scalar.Fits
  split <;> infer_instance

namespace Number

variable {digits rest : List Char} {character : Char}

theorem isDigit_iff : isDigit character = true ↔ '0' ≤ character ∧ character ≤ '9' := by
  simp [isDigit]

theorem moreDigits_of_all (all : ∀ character ∈ digits, isDigit character = true) :
    moreDigits isDigit (digits ++ '\n' :: rest) = (digits, '\n' :: rest) := by
  induction digits with
  | nil => rfl
  | cons character digits inductionHypothesis =>
      have digit := all character List.mem_cons_self
      have noUnderscore : character ≠ '_' := by
        rintro rfl
        cases digit
      rw [List.cons_append, moreDigits, if_pos digit,
        inductionHypothesis fun other membership => all other (.tail character membership)]
      exact fun _ _ same => absurd same noUnderscore

theorem ofDigits_toDigits (number : Nat) : ofDigits 10 (Nat.toDigits 10 number) = number := by
  have spelled {digit : Nat} (small : digit < 10) : hexValue? digit.digitChar = some digit := by
    interval_cases digit <;> rfl
  refine Decimal.digits_induction (motive := fun number digits => ofDigits 10 digits = number)
    (fun digit small => ?_) (fun number _ earlier => ?_) number
  · simp [ofDigits, spelled small]
  · have last := spelled (Nat.mod_lt number (by decide : 0 < 10))
    rw [ofDigits, List.foldl_append]
    change List.foldl _ (ofDigits 10 (Nat.toDigits 10 (number / 10))) _ = number
    rw [earlier]
    simp only [List.foldl_cons, List.foldl_nil, last, Option.getD_some]
    omega

/-- The first digit, and those behind it. -/
theorem exists_digits (number : Nat) : ∃ first later, Nat.toDigits 10 number = first :: later ∧
    isDigit first = true ∧ (∀ character ∈ later, isDigit character = true) ∧
    (first = '0' → later = []) := by
  obtain ⟨first, later, spelled⟩ := List.exists_cons_of_ne_nil
    (@Nat.toDigits_ne_nil number 10)
  have digit {character : Char} (membership : character ∈ first :: later) :
      isDigit character = true :=
    isDigit_iff.mpr (Decimal.bounds_of_mem_toDigits (spelled ▸ membership))
  refine ⟨first, later, spelled, digit List.mem_cons_self, fun _ found => digit (.tail _ found), ?_⟩
  rintro rfl
  have least : number = 0 := by
    by_contra positive
    apply Decimal.head?_toDigits_ne_zero (Nat.pos_of_ne_zero positive)
    rw [spelled, List.head?_cons]
  rw [least] at spelled
  exact (List.cons.inj spelled).2.symm

section Digits

variable {first : Char} {later : List Char} (digit : isDigit first = true)

include digit

theorem digit_ne (other : Char) (noDigit : isDigit other = false) : first ≠ other := by
  rintro rfl
  exact absurd digit (by simp [noDigit])

theorem wholeDigits_of_all (all : ∀ character ∈ later, isDigit character = true)
    (zero : first = '0' → later = []) :
    wholeDigits (first :: (later ++ '\n' :: rest)) = some (first :: later, '\n' :: rest) := by
  by_cases leading : first = '0'
  · rw [leading, zero leading]
    rfl
  · have counted := @moreDigits_of_all later rest all
    rw [wholeDigits]
    · rw [Number.digits, if_pos digit, counted]
    · exact fun _ same => leading (List.cons.inj same).1

theorem decimal_of_all (all : ∀ character ∈ later, isDigit character = true)
    (zero : first = '0' → later = []) {number : Nat}
    (spelled : ofDigits 10 (first :: later) = number) (fits : number < numberBound) :
    decimal .standard (first :: (later ++ '\n' :: rest)) =
      some (.integer number, '\n' :: rest) := by
  have unsigned : sign (first :: (later ++ '\n' :: rest)) =
      (false, first :: (later ++ '\n' :: rest)) := by
    rw [sign]
    · exact fun _ same => digit_ne digit '-' rfl (List.cons.inj same).1
    · exact fun _ same => digit_ne digit '+' rfl (List.cons.inj same).1
  have bound : Limits.standard.number = numberBound := rfl
  have within : integer? .standard number = some (.integer number) := by
    rw [integer?, if_pos (by omega)]
  have whole := @wholeDigits_of_all rest first later digit all zero
  unfold decimal
  rw [unsigned]
  dsimp only
  split
  next same => exact absurd (List.cons.inj same).1 (digit_ne digit 'i' rfl)
  next same => exact absurd (List.cons.inj same).1 (digit_ne digit 'n' rfl)
  next => simp [whole, fraction, exponent, spelled, within]

omit digit in
theorem read_of_all (limits : Limits) (zero : first = '0' → later = []) :
    read limits (first :: (later ++ '\n' :: rest)) =
      decimal limits (first :: (later ++ '\n' :: rest)) := by
  have noMark (mark : Char) (different : mark ≠ '\n') (others : List Char) :
      first :: (later ++ '\n' :: rest) ≠ '0' :: mark :: others := by
    intro same
    obtain ⟨leading, behind⟩ := List.cons.inj same
    rw [zero leading] at behind
    exact different (List.cons.inj behind).1.symm
  rw [read]
  · exact noMark 'x' (by decide)
  · exact noMark 'o' (by decide)
  · exact noMark 'b' (by decide)

end Digits

theorem read_toDigits {number : Nat} (fits : number < numberBound) :
    read .standard (Nat.toDigits 10 number ++ '\n' :: rest) =
      some (.integer number, '\n' :: rest) := by
  obtain ⟨first, later, spelled, digit, all, zero⟩ := exists_digits number
  rw [spelled, List.cons_append, read_of_all _ zero]
  exact decimal_of_all digit all zero (spelled ▸ ofDigits_toDigits number) fits

end Number

namespace DateTime

variable {digits rest : List Char}

theorem field_eq_some {width low high number : Nat} {input after : List Char}
    (read : field width low high input = some (number, after)) :
    (∀ character ∈ input.take width, Number.isDigit character = true) ∧
      after = input.drop width := by
  simp only [field, Option.ite_none_right_eq_some, Option.some.injEq, Prod.mk.injEq] at read
  exact ⟨List.all_eq_true.mp read.1.2.1, read.2.2.symm⟩

/-- A field of digits is followed by a digit or by the line end. -/
theorem head?_of_field {width low high number : Nat} {after : List Char}
    (all : ∀ character ∈ digits, Number.isDigit character = true)
    (read : field width low high (digits ++ '\n' :: rest) = some (number, after)) :
    ∀ first ∈ after.head?, first = '\n' ∨ Number.isDigit first = true := by
  obtain ⟨allTaken, rfl⟩ := field_eq_some read
  have short : width ≤ digits.length := by
    by_contra long
    obtain ⟨more, exceeds⟩ := Nat.exists_eq_add_of_lt (Nat.lt_of_not_le long)
    have taken : '\n' ∈ (digits ++ '\n' :: rest).take width := by
      rw [exceeds, Nat.add_assoc, List.take_length_add_append]
      exact List.mem_append_right _ List.mem_cons_self
    exact absurd (allTaken _ taken) (by decide)
  intro first begins
  rw [List.drop_append_of_le_length short] at begins
  cases remaining : digits.drop width with
  | nil =>
      rw [remaining] at begins
      cases begins
      exact .inl rfl
  | cons digit later =>
      rw [remaining] at begins
      cases begins
      exact .inr (all _ (List.mem_of_mem_drop (remaining ▸ List.mem_cons_self)))

/-- Digits alone do not begin a date or a time. -/
theorem begins_of_all (all : ∀ character ∈ digits, Number.isDigit character = true) :
    begins (digits ++ '\n' :: rest) = false := by
  have noMark {mark : Char} (ordinary : mark ≠ '\n' ∧ Number.isDigit mark = false)
      {width low high number : Nat} {after : List Char}
      (read : field width low high (digits ++ '\n' :: rest) = some (number, after)) :
      after.head? ≠ some mark := by
    intro marked
    rcases head?_of_field all read mark marked with same | digit
    · exact ordinary.1 same
    · exact absurd digit (by simp [ordinary.2])
  rw [begins, Bool.or_eq_false_iff, Option.any_eq_false, Option.any_eq_false]
  constructor
  · rintro ⟨number, after⟩ read
    exact decide_eq_false (noMark (by decide) read)
  · rintro ⟨number, after⟩ read
    exact decide_eq_false (noMark (by decide) read)

end DateTime

/-- A quoted text begins with one of the two marks. -/
theorem exists_quote (text : List Char) : ∃ mark later, quote text = mark :: later ∧
    (mark = '\x22' ∨ mark = '\x27') := by
  rw [quote]
  cases marksFor text with
  | basic => exact ⟨_, _, rfl, .inl rfl⟩
  | literal => exact ⟨_, _, rfl, .inr rfl⟩
  | basicBlock => exact ⟨_, _, rfl, .inl rfl⟩
  | literalBlock => exact ⟨_, _, rfl, .inr rfl⟩

theorem readScalar_quote {rest : List Char} (limits : Limits) (text : List Char)
    (unquoted : Unquoted rest) :
    readScalar limits (quote text ++ rest) = some (.string (String.ofList text), rest) := by
  have back := Quoted.read_quote text unquoted
  obtain ⟨mark, later, spelled, isMark⟩ := exists_quote text
  rw [spelled, List.cons_append] at back ⊢
  rcases isMark with rfl | rfl
  · simp [readScalar, back]
  · simp [readScalar, back]

theorem readScalar_of_digit {first : Char} {later : List Char} (limits : Limits)
    (digit : Number.isDigit first = true) :
    readScalar limits (first :: later) =
      if DateTime.begins (first :: later) then DateTime.read (first :: later)
      else Number.read limits (first :: later) := by
  have noQuote := Number.digit_ne digit '\x22' rfl
  have noApostrophe := Number.digit_ne digit '\x27' rfl
  rw [readScalar]
  · rw [List.head?_cons]
    split
    · simp_all
    · simp_all
    · rfl
  · exact fun _ same => Number.digit_ne digit 't' rfl (List.cons.inj same).1
  · exact fun _ same => Number.digit_ne digit 'f' rfl (List.cons.inj same).1

/-- A value is read back where its line ends. -/
theorem readScalar_print {scalar : Scalar} (fits : scalar.Fits) (rest : List Char) :
    readScalar .standard (scalar.print ++ '\n' :: rest) =
      some (scalar.value, '\n' :: rest) := by
  cases scalar with
  | text content =>
      have unquoted : Unquoted ('\n' :: rest) := by
        intro first begins
        cases begins
        decide
      rw [Scalar.print, readScalar_quote _ content.toList unquoted, String.ofList_toList]
      rfl
  | number amount =>
      obtain ⟨first, later, spelled, digit, all, -⟩ := Number.exists_digits amount
      have noDate := @DateTime.begins_of_all (first :: later) rest
        (List.forall_mem_cons.mpr ⟨digit, all⟩)
      have read := @Number.read_toDigits rest amount fits
      rw [spelled] at read
      rw [Scalar.print, spelled, List.cons_append, readScalar_of_digit _ digit]
      rw [List.cons_append] at noDate read
      rw [noDate, if_neg Bool.false_ne_true, read]
      rfl
  | flag on => cases on <;> rfl

end BaudSwitch.Toml
