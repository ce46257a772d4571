import BaudSwitch.Toml.Printer
import Mathlib.Tactic.IntervalCases

/-!
# Quoted text read back

Whatever marks a text is written between, reading gives the text back and leaves what follows it.
Between quotation marks every character comes back from its own spelling; the only question is
where a block ends, since up to two marks in a row belong to the text.  Between apostrophes
nothing is spelled otherwise, and the choice of marks has to see to it that the text can stand
there.
-/

namespace BaudSwitch.Toml

/-- What follows a quoted text must not look like more of its closing marks. -/
def Unquoted (rest : List Char) : Prop :=
  ∀ character ∈ rest.head?, character ≠ '\x22' ∧ character ≠ '\x27'

namespace Quoted

variable {block : Bool} {character : Char} {text rest : List Char}

/-! ## Between quotation marks -/

theorem readBasic_plain (plain : isPlain character = true) (noQuote : character ≠ '\x22')
    (noBackslash : character ≠ '\\') :
    readBasic block (.text false) (character :: rest) =
      cons character (readBasic block (.text false) rest) := by
  have noNewline : character ≠ '\n' := by
    rintro rfl
    cases plain
  have noReturn : character ≠ '\r' := by
    rintro rfl
    cases plain
  rw [readBasic] <;> simp_all

theorem readBasic_named {letter : Char} (named : named? letter = some character) :
    readBasic block (.text false) ('\\' :: letter :: rest) =
      cons character (readBasic block (.text false) rest) := by
  have noNewline : letter ≠ '\n' := by
    rintro rfl
    cases named
  have noReturn : letter ≠ '\r' := by
    rintro rfl
    cases named
  have noShort : letter ≠ 'u' := by
    rintro rfl
    cases named
  have noLong : letter ≠ 'U' := by
    rintro rfl
    cases named
  have noBlank : isBlank letter = false := by
    by_contra blank
    simp only [isBlank, Bool.not_eq_false, Bool.or_eq_true, beq_iff_eq] at blank
    rcases blank with rfl | rfl <;> cases named
  have opened : readBasic block (.text false) ('\\' :: letter :: rest) =
      readBasic block .escape (letter :: rest) := rfl
  rw [opened, readBasic, if_neg noShort, if_neg noLong, noBlank, named]
  · rfl
  · exact noNewline
  · rintro _ rfl
    exact absurd rfl noReturn

theorem hexValue?_upperDigit {value : Nat} (small : value < 16) :
    hexValue? (upperDigit value) = some value := by
  interval_cases value <;> rfl

/-- Four digits, the first two of them zero, spell a character below 256. -/
theorem readBasic_code {number : Nat} (small : number < 256) :
    readBasic block (.text false) ('\\' :: 'u' :: '0' :: '0' :: upperDigit (number / 16) ::
        upperDigit (number % 16) :: rest) =
      cons (Char.ofNat number) (readBasic block (.text false) rest) := by
  have zero : hexValue? '0' = some 0 := rfl
  have high := hexValue?_upperDigit (show number / 16 < 16 by omega)
  have low := hexValue?_upperDigit (show number % 16 < 16 by omega)
  have whole : number / 16 * 16 + number % 16 = number := by omega
  have opened (digits : List Char) : readBasic block (.text false) ('\\' :: 'u' :: digits) =
      readBasic block (.code 3 0) digits := rfl
  have valid : number.isValidChar := .inl (by omega)
  rw [opened]
  simp only [readBasic, zero, high, low, Nat.zero_mul, Nat.zero_add, whole, scalar?, if_pos valid]

/-- The ways in which a character other than the quotation mark is spelled. -/
inductive Spells (block : Bool) : Char → List Char → Prop where
  | named {character letter : Char} (named : named? letter = some character) :
      Spells block character ['\\', letter]
  | lineEnd (inBlock : block = true) : Spells block '\n' ['\n']
  | code {character : Char} (small : character.toNat < 256) : Spells block character
      ['\\', 'u', '0', '0', upperDigit (character.toNat / 16), upperDigit (character.toNat % 16)]
  | itself {character : Char} (plain : isPlain character = true) (noBackslash : character ≠ '\\') :
      Spells block character [character]

theorem spells_escapeChar (block : Bool) (character : Char) :
    Spells block character (escapeChar block character) := by
  unfold escapeChar
  split_ifs with backspace tab newline inBlock formFeed carriageReturn backslash control
  · exact backspace ▸ .named rfl
  · exact tab ▸ .named rfl
  · exact newline ▸ .lineEnd inBlock
  · exact newline ▸ .named rfl
  · exact formFeed ▸ .named rfl
  · exact carriageReturn ▸ .named rfl
  · rw [backslash]
    exact .named rfl
  · apply Spells.code
    rcases control with low | rfl
    · exact Nat.lt_trans (Char.lt_def.mp low) (by decide)
    · decide
  · refine .itself ?_ backslash
    rw [not_or, Char.not_lt] at control
    simp [isPlain, control]

theorem readBasic_escapeChar (noQuote : character ≠ '\x22') :
    readBasic block (.text false) (escapeChar block character ++ rest) =
      cons character (readBasic block (.text false) rest) := by
  have spelled := spells_escapeChar block character
  generalize escapeChar block character = spelling at spelled ⊢
  cases spelled with
  | named named => exact readBasic_named named
  | lineEnd inBlock =>
      rw [inBlock]
      rfl
  | code small =>
      have read := @readBasic_code block rest _ small
      rwa [Char.ofNat_toNat] at read
  | itself plain noBackslash => exact readBasic_plain plain noQuote noBackslash

/-- A spelling begins with a backslash, or is the character itself. -/
theorem exists_escapeChar (block : Bool) (character : Char) :
    ∃ first later, escapeChar block character = first :: later ∧
      (first = '\\' ∨ first = character ∧ character ≠ '\r') := by
  have spelled := spells_escapeChar block character
  generalize escapeChar block character = spelling at spelled ⊢
  cases spelled with
  | named => exact ⟨_, _, rfl, .inl rfl⟩
  | lineEnd => exact ⟨_, _, rfl, .inr ⟨rfl, by decide⟩⟩
  | code => exact ⟨_, _, rfl, .inl rfl⟩
  | itself plain =>
      refine ⟨_, _, rfl, .inr ⟨rfl, ?_⟩⟩
      rintro rfl
      cases plain

/-- A text begins with a bare quotation mark only if it holds one there and there is room for
it. -/
theorem head?_escapeText_ne {quotes : Nat} (filled : text ≠ [])
    (full : text.head? = some '\x22' → block = false ∨ 2 ≤ quotes) :
    (escapeText block quotes text ++ rest).head? ≠ some '\x22' := by
  obtain ⟨character, later, rfl⟩ := List.exists_cons_of_ne_nil filled
  rw [escapeText]
  by_cases quote : character = '\x22'
  · have escaped : (block && quotes < 2) = false := by
      rcases full (congrArg some quote) with rfl | full
      · rfl
      · simp [Nat.not_lt.mpr full]
    rw [if_pos quote, escaped]
    simp
  · obtain ⟨first, others, spelled, begins⟩ := exists_escapeChar block character
    rw [if_neg quote, spelled, List.cons_append, List.cons_append, List.head?_cons, ne_eq,
      Option.some_inj]
    rintro rfl
    rcases begins with same | ⟨rfl, -⟩
    · cases same
    · exact quote rfl

theorem readBasic_escapeText (quotes : Nat) (text rest : List Char) :
    readBasic false (.text false) (escapeText false quotes text ++ '\x22' :: rest) =
      some (text, rest) := by
  induction text generalizing quotes with
  | nil => rfl
  | cons character text inductionHypothesis =>
      rw [escapeText]
      by_cases quote : character = '\x22'
      · subst quote
        rw [if_pos rfl, Bool.false_and, if_neg Bool.false_ne_true, List.cons_append,
          List.cons_append, readBasic_named rfl, inductionHypothesis]
        rfl
      · rw [if_neg quote, List.append_assoc, readBasic_escapeChar quote, inductionHypothesis]
        rfl

section Closing

variable {mark : Char}

theorem closing_of_head?_ne (different : rest.head? ≠ some mark) :
    closing mark rest = ([], rest) := by
  unfold closing
  split
  · simp_all
  · simp_all
  · rfl

theorem closing_one (different : rest.head? ≠ some mark) :
    closing mark (mark :: rest) = ([mark], rest) := by
  cases rest with
  | nil => simp [closing]
  | cons character rest => simp_all [closing]

theorem closing_two : closing mark (mark :: mark :: rest) = ([mark, mark], rest) := by
  simp [closing]

end Closing

theorem readBasic_closing :
    readBasic true (.text false) ('\x22' :: '\x22' :: '\x22' :: rest) =
      some (closing '\x22' rest) := rfl

theorem readBasic_quote (inside : ∀ after, rest ≠ '\x22' :: '\x22' :: after) :
    readBasic true (.text false) ('\x22' :: rest) =
      cons '\x22' (readBasic true (.text false) rest) := by
  rw [readBasic, if_pos rfl]
  exact inside

/-- Behind a mark that stands for itself, the block is closed at once only if at most one more
such mark is all that is left. -/
theorem not_closed {quotes : Nat} (begun : 1 ≤ quotes) (filled : text ≠ [])
    (more : quotes = 1 → text ≠ ['\x22']) (after : List Char) :
    escapeText true quotes text ++ '\x22' :: '\x22' :: '\x22' :: rest ≠
      '\x22' :: '\x22' :: after := by
  intro closed
  have begins := congrArg List.head? closed
  by_cases room : text.head? = some '\x22' ∧ quotes < 2
  · obtain ⟨quote, few⟩ := room
    obtain ⟨later, rfl⟩ := List.head?_eq_some_iff.mp quote
    have one : quotes = 1 := by omega
    subst one
    have remaining : later ≠ [] := by
      rintro rfl
      exact more rfl rfl
    have second := congrArg (fun written => written.tail.head?) closed
    exact head?_escapeText_ne remaining (fun _ => .inr (Nat.le_refl 2)) second
  · have many (quote : text.head? = some '\x22') : 2 ≤ quotes :=
      Nat.le_of_not_lt fun few => room ⟨quote, few⟩
    exact head?_escapeText_ne filled (fun quote => .inr (many quote)) begins

/-- The number of marks that were just read decides whether the next one stands for itself.  One
that does is followed by two more only where the block ends. -/
theorem readBasic_escapeText_block (quotes : Nat) (text : List Char)
    (ended : rest.head? ≠ some '\x22') :
    readBasic true (.text false)
        (escapeText true quotes text ++ '\x22' :: '\x22' :: '\x22' :: rest) =
      some (text, rest) := by
  induction text generalizing quotes with
  | nil =>
      rw [escapeText, List.nil_append, readBasic_closing, closing_of_head?_ne ended]
  | cons character text inductionHypothesis =>
      rw [escapeText]
      by_cases quote : character = '\x22'
      · subst quote
        rw [if_pos rfl, Bool.true_and]
        by_cases few : quotes < 2
        · rw [if_pos (by simpa using few), List.cons_append]
          by_cases last : text = []
          · subst last
            rw [escapeText, List.nil_append, readBasic_closing, closing_one ended]
          · by_cases two : quotes = 0 ∧ text = ['\x22']
            · obtain ⟨rfl, rfl⟩ := two
              exact congrArg some closing_two
            · have inside := @not_closed text rest (quotes + 1) (Nat.le_add_left 1 quotes) last
                fun one same => two ⟨Nat.succ.inj one, same⟩
              rw [readBasic_quote inside, inductionHypothesis]
              rfl
        · rw [if_neg (by simpa using few), List.cons_append, List.cons_append,
            readBasic_named rfl, inductionHypothesis]
          rfl
      · rw [if_neg quote, List.append_assoc, readBasic_escapeChar quote, inductionHypothesis]
        rfl

/-! ## Between apostrophes -/

theorem readLiteral_plain (plain : isPlain character = true) (noApostrophe : character ≠ '\x27') :
    readLiteral block (character :: rest) = cons character (readLiteral block rest) := by
  have noNewline : character ≠ '\n' := by
    rintro rfl
    cases plain
  have noReturn : character ≠ '\r' := by
    rintro rfl
    cases plain
  rw [readLiteral] <;> simp_all

theorem isPlain_of_printable (printable : needsEscape character = false)
    (noNewline : character ≠ '\n') : isPlain character = true := by
  unfold needsEscape at printable
  unfold isPlain
  by_cases tab : character = '\t'
  · simp [tab]
  · simp_all

theorem readLiteral_line (printable : text.any needsEscape = false) (oneLine : '\n' ∉ text)
    (unmarked : '\x27' ∉ text) (rest : List Char) :
    readLiteral false (text ++ '\x27' :: rest) = some (text, rest) := by
  induction text with
  | nil => rfl
  | cons character text inductionHypothesis =>
      simp only [List.any_cons, Bool.or_eq_false_iff, List.mem_cons, not_or] at *
      have plain := isPlain_of_printable printable.1 (Ne.symm oneLine.1)
      rw [List.cons_append, readLiteral_plain plain (Ne.symm unmarked.1),
        inductionHypothesis printable.2 oneLine.2 unmarked.2]
      rfl

/-- The longest run of a mark and the one that is still going on, after more characters. -/
def runs (mark : Char) (state : Nat × Nat) (text : List Char) : Nat × Nat :=
  text.foldl
    (fun (longest, current) character =>
      let current := if character = mark then current + 1 else 0
      (max longest current, current))
    state

section Runs

variable {mark : Char}

theorem longestRun_eq (mark : Char) (text : List Char) :
    longestRun mark text = (runs mark (0, 0) text).1 := rfl

theorem runs_cons (mark : Char) (longest current : Nat) (character : Char) (text : List Char) :
    runs mark (longest, current) (character :: text) =
      runs mark (max longest (if character = mark then current + 1 else 0),
        if character = mark then current + 1 else 0) text := rfl

theorem runs_mono {longest current longer further : Nat} (least : longest ≤ longer)
    (ahead : current ≤ further) :
    (runs mark (longest, current) text).1 ≤ (runs mark (longer, further) text).1 := by
  induction text generalizing longest current longer further with
  | nil => exact least
  | cons character text inductionHypothesis =>
      rw [runs_cons, runs_cons]
      apply inductionHypothesis <;> split <;> omega

theorem le_runs (longest current : Nat) :
    longest ≤ (runs mark (longest, current) text).1 := by
  induction text generalizing longest current with
  | nil => exact Nat.le_refl longest
  | cons character text inductionHypothesis =>
      rw [runs_cons]
      exact Nat.le_trans (Nat.le_max_left _ _) (inductionHypothesis _ _)

theorem longestRun_le_cons : longestRun mark text ≤ longestRun mark (character :: text) := by
  rw [longestRun_eq, longestRun_eq, runs_cons]
  exact runs_mono (Nat.zero_le _) (Nat.zero_le _)

theorem three_le_longestRun : 3 ≤ longestRun mark (mark :: mark :: mark :: text) := by
  simp only [longestRun_eq, runs_cons, if_pos]
  exact le_runs 3 3

theorem notMem_of_longestRun (absent : longestRun mark text = 0) : mark ∉ text := by
  induction text with
  | nil => exact List.not_mem_nil
  | cons character text inductionHypothesis =>
      have later : longestRun mark text = 0 :=
        Nat.eq_zero_of_le_zero (absent ▸ longestRun_le_cons)
      rw [List.mem_cons, not_or]
      refine ⟨?_, inductionHypothesis later⟩
      rintro rfl
      rw [longestRun_eq, runs_cons, if_pos rfl] at absent
      exact absurd (absent ▸ le_runs (max 0 (0 + 1)) (0 + 1)) (by decide)

end Runs

theorem readLiteral_closing :
    readLiteral true ('\x27' :: '\x27' :: '\x27' :: rest) = some (closing '\x27' rest) := rfl

theorem readLiteral_apostrophe (inside : ∀ after, rest ≠ '\x27' :: '\x27' :: after) :
    readLiteral true ('\x27' :: rest) = cons '\x27' (readLiteral true rest) := by
  rw [readLiteral, if_pos rfl]
  exact inside

/-- Behind an apostrophe of the text, the block is closed at once only if at most one more is all
that is left. -/
theorem not_closed_literal (few : longestRun '\x27' ('\x27' :: text) ≤ 2) (filled : text ≠ [])
    (more : text ≠ ['\x27']) (after : List Char) :
    text ++ '\x27' :: '\x27' :: '\x27' :: rest ≠ '\x27' :: '\x27' :: after := by
  intro closed
  obtain ⟨first, others, rfl⟩ := List.exists_cons_of_ne_nil filled
  simp only [List.cons_append, List.cons.injEq] at closed
  obtain ⟨rfl, begins⟩ := closed
  cases others with
  | nil => exact more rfl
  | cons second others =>
      simp only [List.cons_append, List.cons.injEq] at begins
      obtain ⟨rfl, -⟩ := begins
      exact absurd (Nat.le_trans three_le_longestRun few) (by decide)

/-- Where no three apostrophes follow each other in the text, three of them only come where the
block ends. -/
theorem readLiteral_block (printable : text.any needsEscape = false)
    (few : longestRun '\x27' text ≤ 2) (ended : rest.head? ≠ some '\x27') :
    readLiteral true (text ++ '\x27' :: '\x27' :: '\x27' :: rest) = some (text, rest) := by
  induction text with
  | nil => rw [List.nil_append, readLiteral_closing, closing_of_head?_ne ended]
  | cons character text inductionHypothesis =>
      simp only [List.any_cons, Bool.or_eq_false_iff] at printable
      have onward := inductionHypothesis printable.2 (Nat.le_trans longestRun_le_cons few)
      rw [List.cons_append]
      by_cases apostrophe : character = '\x27'
      · subst apostrophe
        by_cases last : text = []
        · subst last
          exact (readLiteral_closing).trans (congrArg some (closing_one ended))
        · by_cases two : text = ['\x27']
          · subst two
            exact congrArg some closing_two
          · rw [readLiteral_apostrophe (not_closed_literal few last two), onward]
            rfl
      · by_cases newline : character = '\n'
        · subst newline
          exact congrArg (cons '\n') onward
        · rw [readLiteral_plain (isPlain_of_printable printable.1 newline) apostrophe, onward]
          rfl

/-! ## Any marks -/

theorem skipFirstLine_of_head? (noNewline : text.head? ≠ some '\n')
    (noReturn : text.head? ≠ some '\r') : skipFirstLine text = text := by
  unfold skipFirstLine
  split <;> simp_all

/-- A block that holds a line end begins behind one, and any other begins with its text. -/
theorem skipFirstLine_firstLine {written : List Char}
    (begins : ∀ first ∈ (written ++ rest).head?, first ≠ '\r' ∧ (first = '\n' → '\n' ∈ text)) :
    skipFirstLine ((if text.contains '\n' then ['\n'] else []) ++ written ++ rest) =
      written ++ rest := by
  by_cases newline : '\n' ∈ text
  · rw [if_pos (List.contains_iff_mem.mpr newline)]
    rfl
  · rw [if_neg (by simpa using newline), List.nil_append]
    apply skipFirstLine_of_head?
    · intro first
      exact newline ((begins _ first).2 rfl)
    · intro first
      exact (begins _ first).1 rfl

theorem printable_of_literal (chosen : marksFor text = .literal) :
    text.any needsEscape = false ∧ '\x27' ∉ text ∧ '\n' ∉ text := by
  unfold marksFor at chosen
  simp only at chosen
  split at chosen
  · cases chosen
  split at chosen
  next suits =>
    simp only [Bool.and_eq_true, Bool.not_eq_true', decide_eq_true_eq] at suits
    exact ⟨suits.1.1, notMem_of_longestRun suits.1.2, by simpa using suits.2⟩
  repeat' split at chosen
  all_goals cases chosen

theorem printable_of_literalBlock (chosen : marksFor text = .literalBlock) :
    text.any needsEscape = false ∧ longestRun '\x27' text ≤ 2 := by
  unfold marksFor at chosen
  simp only at chosen
  split at chosen
  · cases chosen
  split at chosen
  · cases chosen
  split at chosen
  · cases chosen
  split at chosen
  next suits => simpa using suits
  repeat' split at chosen
  all_goals cases chosen

/-- A block may begin with any character but a return, since that is escaped or rules the block
out. -/
theorem head?_of_escapeText {quotes : Nat} :
    ∀ first ∈ (escapeText true quotes text ++ '\x22' :: rest).head?,
      first ≠ '\r' ∧ (first = '\n' → '\n' ∈ text) := by
  intro first begins
  cases text with
  | nil =>
      cases begins
      exact ⟨by decide, by decide⟩
  | cons character text =>
      rw [escapeText] at begins
      split at begins
      · split at begins <;>
          · cases begins
            exact ⟨by decide, fun newline => absurd newline (by decide)⟩
      · obtain ⟨opening, later, spelled, kind⟩ := exists_escapeChar true character
        rw [spelled] at begins
        cases begins
        rcases kind with rfl | ⟨rfl, noReturn⟩
        · exact ⟨by decide, fun newline => absurd newline (by decide)⟩
        · exact ⟨noReturn, fun newline => newline ▸ List.mem_cons_self⟩

theorem head?_of_printable (printable : text.any needsEscape = false) :
    ∀ first ∈ (text ++ '\x27' :: rest).head?, first ≠ '\r' ∧ (first = '\n' → '\n' ∈ text) := by
  intro first begins
  cases text with
  | nil =>
      cases begins
      exact ⟨by decide, by decide⟩
  | cons character text =>
      cases begins
      rw [List.any_cons, Bool.or_eq_false_iff] at printable
      refine ⟨?_, fun newline => newline ▸ List.mem_cons_self⟩
      rintro rfl
      exact absurd printable.1 (by decide)

theorem read_basic (ended : rest.head? ≠ some '\x22') :
    read ('\x22' :: (escapeText false 0 text ++ '\x22' :: rest)) = some (text, rest) := by
  have oneMark (after : List Char) :
      escapeText false 0 text ++ '\x22' :: rest ≠ '\x22' :: '\x22' :: after := by
    intro closed
    by_cases filled : text = []
    · subst filled
      exact ended (congrArg (fun written => written.tail.head?) closed)
    · exact head?_escapeText_ne filled (fun _ => .inl rfl) (congrArg List.head? closed)
  rw [read, readBasic_escapeText]
  exact oneMark

theorem read_literal (chosen : marksFor text = .literal) (ended : rest.head? ≠ some '\x27') :
    read ('\x27' :: (text ++ '\x27' :: rest)) = some (text, rest) := by
  obtain ⟨printable, unmarked, oneLine⟩ := printable_of_literal chosen
  have oneMark (after : List Char) : text ++ '\x27' :: rest ≠ '\x27' :: '\x27' :: after := by
    intro closed
    cases text with
    | nil => exact ended (congrArg (fun written => written.tail.head?) closed)
    | cons character text =>
        cases congrArg List.head? closed
        exact unmarked List.mem_cons_self
  rw [read, readLiteral_line printable oneLine unmarked]
  exact oneMark

/-- Reading gives back any text that was quoted, and what follows it. -/
theorem read_quote (text : List Char) (unquoted : Unquoted rest) :
    read (quote text ++ rest) = some (text, rest) := by
  have noQuote : rest.head? ≠ some '\x22' := fun begins => (unquoted _ begins).1 rfl
  have noApostrophe : rest.head? ≠ some '\x27' := fun begins => (unquoted _ begins).2 rfl
  rw [quote]
  cases chosen : marksFor text with
  | basic =>
      simp only [List.cons_append, List.append_assoc, List.nil_append]
      exact read_basic noQuote
  | literal =>
      simp only [List.cons_append, List.append_assoc, List.nil_append]
      exact read_literal chosen noApostrophe
  | basicBlock =>
      have opened (written : List Char) : read ('\x22' :: '\x22' :: '\x22' :: written) =
          readBasic true (.text false) (skipFirstLine written) := rfl
      have begins := @head?_of_escapeText text ('\x22' :: '\x22' :: rest) 0
      simp only [List.cons_append, List.append_assoc, List.nil_append]
      rw [opened, ← List.append_assoc, skipFirstLine_firstLine begins]
      exact readBasic_escapeText_block 0 text noQuote
  | literalBlock =>
      obtain ⟨printable, few⟩ := printable_of_literalBlock chosen
      have opened (written : List Char) : read ('\x27' :: '\x27' :: '\x27' :: written) =
          readLiteral true (skipFirstLine written) := rfl
      have begins := @head?_of_printable text ('\x27' :: '\x27' :: rest) printable
      simp only [List.cons_append, List.append_assoc, List.nil_append]
      rw [opened, ← List.append_assoc, skipFirstLine_firstLine begins]
      exact readLiteral_block printable few noApostrophe

end Quoted

end BaudSwitch.Toml
