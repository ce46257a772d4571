import BaudSwitch.Proofs.Hex
import BaudSwitch.Text.Printable
import BaudSwitch.Text.Screen
import Mathlib.Data.List.Basic

/-!
# Renderings

The rendering of an octet tells where it ends: a backslash opens every one that is longer than a
character, and the backslash itself is such a one.  So renderings are read back octet by octet,
different octets look different, and nothing in them steers a screen.
-/

namespace BaudSwitch.Printable

/-- The character is one of ASCII that shows, the blank among them. -/
def Shows (character : Char) : Prop :=
  ' ' ≤ character ∧ character ≤ '~'

instance (character : Char) : Decidable (Shows character) :=
  inferInstanceAs (Decidable (_ ∧ _))

/-- A fixed text is checked character by character. -/
theorem shows_of_all {characters : List Char} {character : Char}
    (all : characters.all fun other => decide (Shows other)) (inside : character ∈ characters) :
    Shows character :=
  of_decide_eq_true (List.all_eq_true.mp all character inside)

/-- An octet is the number of its character. -/
theorem toNat_ofNat_octet (octet : UInt8) : (Char.ofNat octet.toNat).toNat = octet.toNat := by
  have valid : octet.toNat.isValidChar := .inl (Nat.lt_trans octet.toNat_lt (by decide))
  rw [Char.ofNat, dif_pos valid]
  rfl

theorem ofNat_toNat_octet (octet : UInt8) :
    UInt8.ofNat (Char.ofNat octet.toNat).toNat = octet := by
  rw [toNat_ofNat_octet, UInt8.ofNat_toNat]

theorem shows_ofNat {octet : UInt8} (least : 0x20 ≤ octet) (most : octet ≤ 0x7E) :
    Shows (Char.ofNat octet.toNat) := by
  have leastNumber : 0x20 ≤ (Char.ofNat octet.toNat).toNat := by
    rw [toNat_ofNat_octet]
    exact UInt8.le_iff_toNat_le.mp least
  have mostNumber : (Char.ofNat octet.toNat).toNat ≤ 0x7E := by
    rw [toNat_ofNat_octet]
    exact UInt8.le_iff_toNat_le.mp most
  exact ⟨leastNumber, mostNumber⟩

theorem shows_digit {number : UInt8} (small : number < 16) :
    Shows (Char.ofNat (Hex.digit number).toNat) := by
  apply shows_ofNat <;> rw [Hex.digit] <;> split <;> grind

/-- The octets that a letter stands for. -/
inductive Letter : UInt8 → Char → Prop where
  | tab : Letter 0x09 't'
  | carriageReturn : Letter 0x0D 'r'
  | newline : Letter 0x0A 'n'
  | singleQuote : Letter 0x27 '\x27'
  | doubleQuote : Letter 0x22 '\x22'
  | backslash : Letter 0x5C '\\'

theorem letter_of_letter? {octet : UInt8} {letter : Char} (named : letter? octet = some letter) :
    Letter octet letter := by
  unfold letter? at named
  repeat' split at named
  all_goals cases named <;> subst octet <;> constructor

theorem read?_letter {octet : UInt8} {letter : Char} (named : Letter octet letter)
    (rest : List Char) :
    read? ('\\' :: letter :: rest) = (read? rest).map (octet :: ·) := by
  cases named <;> simp [read?, named?]

theorem read?_plain {character : Char} (plain : character ≠ '\\') (rest : List Char) :
    read? (character :: rest) = (read? rest).map (UInt8.ofNat character.toNat :: ·) := by
  rw [read?, if_neg plain]
  · rintro _ _ _ rfl
    contradiction
  · rintro _ _ rfl
    contradiction

/-- The rendering of an octet is read back, whatever stands behind it. -/
theorem read?_octet_append (octet : UInt8) (rest : List Char) :
    read? (Printable.octet octet ++ rest) = (read? rest).map (octet :: ·) := by
  unfold Printable.octet
  cases named : letter? octet with
  | some letter => exact read?_letter (letter_of_letter? named) rest
  | none =>
      dsimp only
      split
      next shown =>
        have plain : Char.ofNat octet.toNat ≠ '\\' := by
          intro same
          have backslash : octet = 0x5C := by
            rw [← ofNat_toNat_octet octet, same]
            rfl
          rw [backslash] at named
          cases named
        rw [List.singleton_append, read?_plain plain, ofNat_toNat_octet]
      next =>
        simp [Hex.encodeOctet, read?, ofNat_toNat_octet]

/-- A rendering is read back. -/
theorem read?_chars (bytes : Bytes) : read? (chars bytes) = some bytes := by
  induction bytes with
  | nil => rfl
  | cons octet rest inductionHypothesis =>
      have split : chars (octet :: rest) = Printable.octet octet ++ chars rest := rfl
      rw [split, read?_octet_append, inductionHypothesis]
      rfl

theorem shows_of_mem_octet {octet : UInt8} {character : Char}
    (inside : character ∈ Printable.octet octet) : Shows character := by
  unfold Printable.octet at inside
  cases named : letter? octet with
  | some letter =>
      rw [named] at inside
      simp only [List.mem_cons, List.not_mem_nil, or_false] at inside
      rcases inside with rfl | rfl
      · decide
      · cases letter_of_letter? named <;> decide
  | none =>
      rw [named] at inside
      dsimp only at inside
      split at inside
      next shown =>
        rw [List.mem_singleton.mp inside]
        exact shows_ofNat shown.1 shown.2
      next =>
        have high : octet / 16 < 16 := by grind
        have low : octet % 16 < 16 := by grind
        simp only [Hex.encodeOctet, List.map_cons, List.map_nil, List.mem_cons,
          List.not_mem_nil, or_false] at inside
        rcases inside with rfl | rfl | rfl | rfl
        · decide
        · decide
        · exact shows_digit high
        · exact shows_digit low

theorem shows_of_mem_text {bytes : Bytes} {character : Char}
    (inside : character ∈ (text bytes).toList) : Shows character := by
  rw [text, String.toList_ofList, chars, List.mem_flatMap] at inside
  obtain ⟨octet, -, inside⟩ := inside
  exact shows_of_mem_octet inside

end BaudSwitch.Printable

namespace BaudSwitch.Screen

open Printable (Shows)

theorem char_of_shows {character : Char} (shows : Shows character) :
    char character = [character] := by
  have low : isLowControl character = false := by
    apply Bool.eq_false_iff.mpr
    intro steers
    simp only [isLowControl, Bool.or_eq_true, beq_iff_eq] at steers
    rcases steers with (((rfl | rfl) | rfl) | rfl) | rfl <;> revert shows <;> decide
  have high : isHighControl character = false := by
    apply Bool.eq_false_iff.mpr
    intro steers
    simp only [isHighControl, Bool.and_eq_true, decide_eq_true_iff] at steers
    exact absurd (Char.le_trans steers.1 shows.2) (by decide)
  simp [char, low, high]

/-- A text of which all characters show is shown as it is. -/
theorem text_of_shows {text : String} (shows : ∀ character ∈ text.toList, Shows character) :
    Screen.text text = text := by
  have same : text.toList.flatMap char = text.toList := by
    rw [List.flatMap_congr fun character inside => char_of_shows (shows character inside)]
    exact List.flatMap_singleton' _
  rw [Screen.text, same, String.ofList_toList]

end BaudSwitch.Screen
