import BaudSwitch.CommandLine
import BaudSwitch.Proofs.Text.Utf8

/-!
# What a command line is made of

A command line is written element by element: known options with their values, and between them
words, names and letters that mean nothing.
-/

namespace BaudSwitch.CommandLine

/-- How an option is called: by a letter behind one dash or by a name behind two. -/
inductive Spelling where
  | short (letter : Char)
  | long (name : List Char)
  deriving DecidableEq, Repr

def Spelling.opt? : Spelling → Option Opt
  | .short letter => short? letter
  | .long name => long? (String.ofList name)

def Spelling.text : Spelling → List Char
  | .short letter => ['-', letter]
  | .long name => '-' :: '-' :: name

/-- The option with its value attached. -/
def Spelling.joined (value : List Char) : Spelling → List Char
  | .short letter => '-' :: letter :: value
  | .long name => '-' :: '-' :: name ++ '=' :: value

inductive Element where
  /-- Letters behind one dash: flags, and letters that mean nothing. -/
  | letters (cluster : List Char)
  | flag (name : List Char) (raised : Flag)
  | separate (spelling : Spelling) (option : Valued) (value : List Char)
  | joined (spelling : Spelling) (option : Valued) (value : List Char)
  /-- An argument without a dash that means nothing. -/
  | word (text : List Char)
  /-- A name behind two dashes that means nothing, perhaps with a value. -/
  | stray (name : List Char) (value : Option (List Char))
  deriving DecidableEq, Repr

/-- A letter behind a dash that takes no value. -/
def Plain (letter : Char) : Prop :=
  letter ≠ '-' ∧ letter ≠ '=' ∧ (short? letter = none ∨ short? letter = some (.flag .verbose))

instance (letter : Char) : Decidable (Plain letter) :=
  inferInstanceAs (Decidable (_ ∧ _))

/-- A decimal number that fits 32 bits and is not zero. -/
def SpellsRate (text : List Char) : Prop :=
  text.all Char.isDigit ∧
    1 ≤ Nat.ofDigitChars 10 text 0 ∧ Nat.ofDigitChars 10 text 0 < UInt32.size

/-- A value that an option takes and that cannot be mistaken for an option. -/
def Acceptable (option : Valued) (value : List Char) : Prop :=
  value ≠ [] ∧ value.head? ≠ some '-' ∧ value.head? ≠ some '=' ∧
    (option = .baud → SpellsRate value)

instance (text : List Char) : Decidable (SpellsRate text) :=
  inferInstanceAs (Decidable (_ ∧ _))

instance (option : Valued) (value : List Char) : Decidable (Acceptable option value) :=
  inferInstanceAs (Decidable (_ ∧ _))

namespace Element

/-- The arguments that an element is written as. -/
def given : Element → List (List Char)
  | .letters cluster => ['-' :: cluster]
  | .flag name _ => ['-' :: '-' :: name]
  | .separate spelling _ value => [spelling.text, value]
  | .joined spelling _ value => [spelling.joined value]
  | .word text => [text]
  | .stray name value => ['-' :: '-' :: name ++ value.elim [] ('=' :: ·)]

/-- An element as octets. -/
def written (element : Element) : List Bytes :=
  element.given.map Utf8.encodeChars

/-- The element without what means nothing in it. -/
def known : Element → List Element
  | .letters cluster =>
      match cluster.filter fun letter => (short? letter).isSome with
      | [] => []
      | declared => [.letters declared]
  | .word _ | .stray .. => []
  | element => [element]

def Valid : Element → Prop
  | .letters cluster =>
      cluster ≠ [] ∧ ∀ letter ∈ cluster, Plain letter
  | .flag name raised => long? (String.ofList name) = some (.flag raised)
  | .separate spelling option value | .joined spelling option value =>
      spelling.opt? = some (.valued option) ∧ Acceptable option value
  | .word text => text ≠ [] ∧ text.head? ≠ some '-'
  | .stray name _ => name ≠ [] ∧ '=' ∉ name ∧ long? (String.ofList name) = none

-- The letters are looked at one by one, not all characters there are.
instance (element : Element) : Decidable element.Valid := by
  haveI := List.decidableBAll Plain
  unfold Valid
  split <;> infer_instance

/-- What a reader complains about first in an element. -/
def complaint? : Element → Option (List Char)
  | .letters cluster =>
      (cluster.find? fun letter => (short? letter).isNone).map fun letter => ['-', letter]
  | .word text => some text
  | .stray name _ => some ('-' :: '-' :: name)
  | _ => none

end Element

/-- The request with the value of an option in it. -/
def Request.put (request : Request) (value : List Char) : Valued → Request
  | .baud => { request with baud := some (UInt32.ofNat (Nat.ofDigitChars 10 value 0)) }
  | .port => { request with port := some (String.ofList value) }
  | .settingsFile => { request with settingsFile := some (Utf8.encodeChars value) }
  | .writeTo => { request with writeTo := some (Utf8.encodeChars value) }

def Request.addLetter (request : Request) (letter : Char) : Request :=
  match short? letter with
  | some (.flag flag) => request.raise flag
  | _ => request

/-- The request with what an element asks for. -/
def Request.add (request : Request) : Element → Request
  | .letters cluster => cluster.foldl Request.addLetter request
  | .flag _ raised => request.raise raised
  | .separate _ option value | .joined _ option value => request.put value option
  | .word _ | .stray .. => request

/-- The arguments that a line consists of. -/
def written (line : List Element) : List Bytes :=
  line.flatMap Element.written

/-! ## What is known -/

namespace Element

variable {element : Element}

/-- What means nothing asks for nothing. -/
theorem foldl_known (request : Request) :
    element.known.foldl Request.add request = request.add element := by
  cases element with
  | letters cluster =>
      have same : (cluster.filter fun letter => (short? letter).isSome).foldl Request.addLetter
          request = cluster.foldl Request.addLetter request := by
        rw [List.foldl_filter]
        congr 1
        funext before letter
        cases declared : short? letter with
        | none => simp [Request.addLetter, declared]
        | some opt => simp
      rw [Request.add, ← same, known]
      cases cluster.filter fun letter => (short? letter).isSome with
      | nil => rfl
      | cons first rest => rfl
  | word text => rfl
  | stray name value => rfl
  | flag name raised => rfl
  | separate spelling option value => rfl
  | joined spelling option value => rfl

theorem valid_known (valid : element.Valid) :
    ∀ other ∈ element.known, other.Valid ∧ other.complaint? = none := by
  intro other membership
  cases element with
  | letters cluster =>
      simp only [known] at membership
      cases filtered : cluster.filter fun letter => (short? letter).isSome with
      | nil =>
          rw [filtered] at membership
          cases membership
      | cons first rest =>
          rw [filtered] at membership
          cases List.mem_singleton.mp membership
          have inside : ∀ letter ∈ first :: rest, letter ∈ cluster ∧ (short? letter).isSome := by
            intro letter membership
            exact List.mem_filter.mp (filtered ▸ membership)
          have silent : ((first :: rest).find? fun letter => (short? letter).isNone) = none := by
            rw [List.find?_eq_none]
            intro letter membership
            simp [Option.isSome_iff_ne_none.mp (inside letter membership).2]
          refine ⟨⟨List.cons_ne_nil _ _, ?_⟩, ?_⟩
          · intro letter membership
            exact valid.2 letter (inside letter membership).1
          · rw [complaint?, silent]
            rfl
  | word text => cases membership
  | stray name value => cases membership
  | flag name raised =>
      cases List.mem_singleton.mp membership
      exact ⟨valid, rfl⟩
  | separate spelling option value =>
      cases List.mem_singleton.mp membership
      exact ⟨valid, rfl⟩
  | joined spelling option value =>
      cases List.mem_singleton.mp membership
      exact ⟨valid, rfl⟩

end Element

section Lines

variable {line : List Element}

theorem foldl_flatMap_known (request : Request) :
    (line.flatMap Element.known).foldl Request.add request = line.foldl Request.add request := by
  induction line generalizing request with
  | nil => rfl
  | cons element line inductionHypothesis =>
      rw [List.flatMap_cons, List.foldl_append, element.foldl_known, inductionHypothesis]
      rfl

theorem valid_flatMap_known (valid : ∀ element ∈ line, element.Valid) :
    ∀ element ∈ line.flatMap Element.known, element.Valid ∧ element.complaint? = none := by
  intro element membership
  obtain ⟨whole, inside, membership⟩ := List.mem_flatMap.mp membership
  exact whole.valid_known (valid whole inside) element membership

end Lines

end BaudSwitch.CommandLine
