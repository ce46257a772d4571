import BaudSwitch.Bytes

/-!
# UTF-8

Reading splits any octets into pieces: a piece is one character, or a longest run that starts a
character and cannot be finished.  Strict reading wants characters only; lenient reading shows
the replacement character for each other piece.
-/

namespace BaudSwitch.Utf8

/-- The octet that carries the lowest six bits of a number. -/
def tail (number : Nat) : UInt8 :=
  UInt8.ofNat (0x80 + number % 64)

def encodeChar (character : Char) : Bytes :=
  let number := character.toNat
  if number < 0x80 then [UInt8.ofNat number]
  else if number < 0x800 then [UInt8.ofNat (0xC0 + number / 64), tail number]
  else if number < 0x10000 then
    [UInt8.ofNat (0xE0 + number / 4096), tail (number / 64), tail number]
  else
    [UInt8.ofNat (0xF0 + number / 262144), tail (number / 4096), tail (number / 64), tail number]

def encode (text : String) : Bytes :=
  text.toList.flatMap encodeChar

/-- A character, or octets that are none. -/
structure Piece where
  raw : Bytes
  /-- The character they spell, if they spell one. -/
  char? : Option Char
  deriving DecidableEq, Repr

/-- A character of which some octets are still to come. -/
structure Unfinished where
  seen : Bytes
  /-- How many octets follow the next one. -/
  after : Nat
  /-- The least and the greatest octet that may come next. -/
  low : UInt8
  high : UInt8
  number : Nat
  deriving DecidableEq, Repr

/-- A first octet after which others must come; the bits above `base` are its share. -/
def announce (octet : UInt8) (after : Nat) (low high : UInt8) (base : Nat) : Piece ⊕ Unfinished :=
  .inr ⟨[octet], after, low, high, octet.toNat - base⟩

/-- What the first octet of a piece announces. The bounds on the second octet keep out
over-long spellings, surrogates and numbers above the last code point. -/
def start (octet : UInt8) : Piece ⊕ Unfinished :=
  if octet < 0x80 then .inl ⟨[octet], some (Char.ofNat octet.toNat)⟩
  else if octet < 0xC2 then .inl ⟨[octet], none⟩
  else if octet < 0xE0 then announce octet 0 0x80 0xBF 0xC0
  else if octet = 0xE0 then announce octet 1 0xA0 0xBF 0xE0
  else if octet = 0xED then announce octet 1 0x80 0x9F 0xE0
  else if octet < 0xF0 then announce octet 1 0x80 0xBF 0xE0
  else if octet = 0xF0 then announce octet 2 0x90 0xBF 0xF0
  else if octet < 0xF4 then announce octet 2 0x80 0xBF 0xF0
  else if octet = 0xF4 then announce octet 2 0x80 0x8F 0xF0
  else .inl ⟨[octet], none⟩

/-- An unfinished character with one more octet that fits. -/
def Unfinished.extend (pending : Unfinished) (octet : UInt8) : Piece ⊕ Unfinished :=
  let seen := pending.seen ++ [octet]
  let number := pending.number * 64 + (octet.toNat - 0x80)
  match pending.after with
  | 0 => .inl ⟨seen, some (Char.ofNat number)⟩
  | after + 1 => .inr ⟨seen, after, 0x80, 0xBF, number⟩

/-- Split octets into pieces; the first argument is a character already begun. -/
def split : Option Unfinished → Bytes → List Piece
  | none, [] => []
  | some pending, [] => [⟨pending.seen, none⟩]
  | none, octet :: rest =>
      match start octet with
      | .inl piece => piece :: split none rest
      | .inr pending => split (some pending) rest
  | some pending, octet :: rest =>
      if pending.low ≤ octet ∧ octet ≤ pending.high then
        match pending.extend octet with
        | .inl piece => piece :: split none rest
        | .inr longer => split (some longer) rest
      else
        ⟨pending.seen, none⟩ ::
          match start octet with
          | .inl piece => piece :: split none rest
          | .inr begun => split (some begun) rest

theorem start_seen (octet : UInt8) :
    (∀ piece, start octet = .inl piece → piece.raw = [octet]) ∧
      ∀ pending, start octet = .inr pending → pending.seen = [octet] := by
  unfold start announce
  refine ⟨fun piece equality => ?_, fun pending equality => ?_⟩ <;>
    · repeat' split at equality
      all_goals
        cases equality
        try rfl

theorem extend_seen (pending : Unfinished) (octet : UInt8) :
    (∀ piece, pending.extend octet = .inl piece → piece.raw = pending.seen ++ [octet]) ∧
      ∀ longer, pending.extend octet = .inr longer → longer.seen = pending.seen ++ [octet] := by
  unfold Unfinished.extend
  refine ⟨fun piece equality => ?_, fun longer equality => ?_⟩ <;>
    · dsimp only at equality
      split at equality
      all_goals
        cases equality
        try rfl

theorem flatMap_raw_split (pending : Option Unfinished) (bytes : Bytes) :
    (split pending bytes).flatMap Piece.raw =
      (pending.elim [] Unfinished.seen) ++ bytes := by
  induction bytes generalizing pending with
  | nil => cases pending <;> simp [split]
  | cons octet rest inductionHypothesis =>
      have fresh : (match start octet with
          | .inl piece => piece :: split none rest
          | .inr begun => split (some begun) rest).flatMap Piece.raw = octet :: rest := by
        cases started : start octet with
        | inl piece => simp [inductionHypothesis, (start_seen octet).1 piece started]
        | inr begun => simp [inductionHypothesis, (start_seen octet).2 begun started]
      cases pending with
      | none => simpa [split] using fresh
      | some pending =>
          simp only [split, Option.elim_some]
          split
          · cases extended : pending.extend octet with
            | inl piece =>
                simp [inductionHypothesis, (extend_seen pending octet).1 piece extended]
            | inr longer =>
                simp [inductionHypothesis, (extend_seen pending octet).2 longer extended]
          · simp [fresh]

def pieces (bytes : Bytes) : List Piece :=
  split none bytes

@[simp]
theorem flatMap_raw_pieces (bytes : Bytes) : (pieces bytes).flatMap Piece.raw = bytes := by
  simp [pieces, flatMap_raw_split]

theorem raw_ne_nil_of_mem_split {pending : Option Unfinished} {bytes : Bytes}
    (begun : ∀ unfinished, pending = some unfinished → unfinished.seen ≠ [])
    {piece : Piece} (membership : piece ∈ split pending bytes) : piece.raw ≠ [] := by
  induction bytes generalizing pending with
  | nil =>
      cases pending with
      | none => simp [split] at membership
      | some unfinished =>
          simp only [split, List.mem_singleton] at membership
          subst membership
          exact begun unfinished rfl
  | cons octet rest inductionHypothesis =>
      have fresh (found : piece ∈ (match start octet with
          | .inl first => first :: split none rest
          | .inr next => split (some next) rest)) : piece.raw ≠ [] := by
        cases started : start octet with
        | inl first =>
            rw [started] at found
            rcases List.mem_cons.mp found with rfl | later
            · simp [(start_seen octet).1 _ started]
            · exact inductionHypothesis (by simp) later
        | inr next =>
            rw [started] at found
            refine inductionHypothesis (fun unfinished equality => ?_) found
            cases equality
            simp [(start_seen octet).2 _ started]
      cases pending with
      | none => exact fresh (by simpa only [split] using membership)
      | some unfinished =>
          simp only [split] at membership
          split at membership
          · cases extended : unfinished.extend octet with
            | inl first =>
                rw [extended] at membership
                rcases List.mem_cons.mp membership with rfl | later
                · simp [(extend_seen unfinished octet).1 _ extended]
                · exact inductionHypothesis (by simp) later
            | inr longer =>
                rw [extended] at membership
                refine inductionHypothesis (fun next equality => ?_) membership
                cases equality
                simp [(extend_seen unfinished octet).2 _ extended]
          · rcases List.mem_cons.mp membership with rfl | later
            · exact begun unfinished rfl
            · exact fresh later

theorem raw_ne_nil_of_mem_pieces {bytes : Bytes} {piece : Piece}
    (membership : piece ∈ pieces bytes) : piece.raw ≠ [] :=
  raw_ne_nil_of_mem_split (by simp) membership

/-- The characters of a run of octets, none unless every piece is one. -/
def decodeChars? (bytes : Bytes) : Option (List Char) :=
  (pieces bytes).mapM Piece.char?

/-- The text that octets spell, if they spell one. -/
def decode? (bytes : Bytes) : Option String :=
  (decodeChars? bytes).map String.ofList

/-- The text that octets spell, with U+FFFD for what is no character. -/
def decodeLossy (bytes : Bytes) : String :=
  String.ofList ((pieces bytes).map fun piece => piece.char?.getD '\uFFFD')

end BaudSwitch.Utf8
