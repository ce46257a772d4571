import BaudSwitch.Command
import BaudSwitch.Proofs.Decimal
import BaudSwitch.Proofs.Packet.Framing
import Mathlib.Logic.Function.Basic
import Mathlib.Tactic.Ring

/-!
# What the monitor is told

The packet of a command line holds no octet that framing would change, so the monitor finds the
line in the packet as it stands there.  A line that writes a divider names the register in eight
hexadecimal digits and the divider in decimal ones, and whoever reads the two numbers back gets
the ones that were meant.
-/

namespace BaudSwitch

namespace Monitor

/-- A number with one more digit at its end. -/
def shift? (base number : Nat) (octet : UInt8) : Option Nat := do
  let digit ← Hex.value? octet
  if digit.toNat < base then some (number * base + digit.toNat) else none

/-- The number that digits spell in a base, none if there are no digits or one of them is none. -/
def numeral? (base : Nat) (digits : Bytes) : Option Nat :=
  if digits = [] then none else digits.foldlM (shift? base) 0

/-- The command line that a packet brings, with nothing unescaped. -/
def line? (packet : Bytes) : Option Bytes := do
  let digits ← (Packet.extract packet).dropPrefix? (Bytes.ascii "qRcmd,")
  (Hex.decode digits).toOption

/-- The register and the value that a memory write names. -/
def memoryWrite? (line : Bytes) : Option (Nat × Nat) :=
  match line.splitOn 0x20 with
  | [verb, register, amount] =>
      if verb = Bytes.ascii "mw32" then do
        let digits ← register.dropPrefix? (Bytes.ascii "0x")
        return (← numeral? 16 digits, ← numeral? 10 amount)
      else none
  | _ => none

/-- A hexadecimal digit in lower case. -/
def IsLower (octet : UInt8) : Prop :=
  0x30 ≤ octet ∧ octet ≤ 0x39 ∨ 0x61 ≤ octet ∧ octet ≤ 0x66

/-- A number in decimal digits, without a needless zero in front. -/
structure IsDecimal (digits : Bytes) : Prop where
  digit : ∀ octet ∈ digits, 0x30 ≤ octet ∧ octet ≤ 0x39
  leading : digits.head? = some 0x30 → digits = [0x30]

end Monitor

open Monitor

/-! ## Numbers -/

section Numbers

variable {base number digit : Nat}

theorem toNat_ofNat_of_lt_sixteen (small : digit < 16) : (UInt8.ofNat digit).toNat = digit := by
  rw [UInt8.toNat_ofNat', Nat.mod_eq_of_lt (by omega)]

theorem ofNat_lt_sixteen (small : digit < 16) : UInt8.ofNat digit < 16 := by
  rw [UInt8.lt_iff_toNat_lt, toNat_ofNat_of_lt_sixteen small]
  exact small

theorem shift?_digit (within : base ≤ 16) (small : digit < base) :
    shift? base number (Hex.digit (UInt8.ofNat digit)) = some (number * base + digit) := by
  have below : digit < 16 := Nat.lt_of_lt_of_le small within
  rw [shift?, Hex.value?_digit (ofNat_lt_sixteen below)]
  simp [toNat_ofNat_of_lt_sixteen below, small]

/-- Only as many digits are kept as there is room for. -/
theorem foldlM_padded (width number start : Nat) :
    (Hex.padded width number).foldlM (shift? 16) start =
      some (start * 16 ^ width + number % 16 ^ width) := by
  induction width generalizing number with
  | zero => simp [Hex.padded, Nat.mod_one]
  | succ width inductionHypothesis =>
      rw [Hex.padded, List.foldlM_append, inductionHypothesis]
      simp only [Option.bind_eq_bind, Option.bind_some, List.foldlM_cons, List.foldlM_nil,
        shift?_digit (Nat.le_refl 16) (Nat.mod_lt number (by decide)), pow_succ']
      rw [Nat.mod_mul, Option.pure_def, Option.some_inj]
      ring

@[simp]
theorem length_padded (width number : Nat) : (Hex.padded width number).length = width := by
  induction width generalizing number with
  | zero => rfl
  | succ width inductionHypothesis => simp [Hex.padded, inductionHypothesis]

theorem isLower_digit {value : UInt8} (small : value < 16) : IsLower (Hex.digit value) := by
  unfold IsLower Hex.digit
  split <;> grind

theorem isLower_of_mem_padded {octet : UInt8} {width : Nat}
    (membership : octet ∈ Hex.padded width number) : IsLower octet := by
  induction width generalizing number with
  | zero => cases membership
  | succ width inductionHypothesis =>
      rcases List.mem_append.mp membership with earlier | last
      · exact inductionHypothesis earlier
      · rw [List.mem_singleton.mp last]
        exact isLower_digit (ofNat_lt_sixteen (Nat.mod_lt number (by decide)))

theorem digitChar_octet (small : digit < 10) :
    (Nat.digitChar digit).toNat.toUInt8 = Hex.digit (UInt8.ofNat digit) := by
  interval_cases digit <;> rfl

theorem foldlM_decimal (number : Nat) :
    (Command.decimal number).foldlM (shift? 10) 0 = some number := by
  refine Decimal.digits_induction
    (motive := fun number digits =>
      (digits.map fun digit => digit.toNat.toUInt8).foldlM (shift? 10) 0 = some number)
    (fun digit small => ?_) (fun number _ earlier => ?_) number
  · simp [digitChar_octet small, shift?_digit (show 10 ≤ 16 by decide) small]
  · have last : number % 10 < 10 := Nat.mod_lt number (by decide)
    rw [List.map_append, List.foldlM_append, earlier]
    simp only [Option.bind_eq_bind, Option.bind_some, List.map_cons, List.map_nil,
      List.foldlM_cons, List.foldlM_nil, digitChar_octet last,
      shift?_digit (show 10 ≤ 16 by decide) last]
    rw [Option.pure_def, Option.some_inj]
    omega

theorem decimal_ne_nil (number : Nat) : Command.decimal number ≠ [] := by
  simp [Command.decimal]

theorem octet_of_bounds {character : Char} (bounds : '0' ≤ character ∧ character ≤ '9') :
    0x30 ≤ character.toNat.toUInt8 ∧ character.toNat.toUInt8 ≤ 0x39 ∧
      (character.toNat.toUInt8 = 0x30 → character = '0') := by
  have low : 48 ≤ character.toNat := UInt32.le_iff_toNat_le.mp (Char.le_def.mp bounds.1)
  have high : character.toNat ≤ 57 := UInt32.le_iff_toNat_le.mp (Char.le_def.mp bounds.2)
  have same : character.toNat.toUInt8.toNat = character.toNat := by
    rw [Nat.toUInt8_eq, UInt8.toNat_ofNat', Nat.mod_eq_of_lt (by omega)]
  refine ⟨?_, ?_, fun zero => ?_⟩
  · rw [UInt8.le_iff_toNat_le, same]
    exact low
  · rw [UInt8.le_iff_toNat_le, same]
    exact high
  · rw [zero] at same
    exact Char.toNat_inj.mp same.symm

theorem isDecimal_decimal (number : Nat) : IsDecimal (Command.decimal number) where
  digit := by
    intro octet membership
    obtain ⟨character, found, rfl⟩ := List.mem_map.mp membership
    have bounds := octet_of_bounds (Decimal.bounds_of_mem_toDigits found)
    exact ⟨bounds.1, bounds.2.1⟩
  leading := by
    intro begins
    rw [Command.decimal, List.head?_map] at begins
    obtain ⟨character, first, zero⟩ := Option.map_eq_some_iff.mp begins
    have found := List.mem_of_mem_head? first
    rw [(octet_of_bounds (Decimal.bounds_of_mem_toDigits found)).2.2 zero] at first
    have least : number = 0 := by
      by_contra positive
      exact Decimal.head?_toDigits_ne_zero (Nat.pos_of_ne_zero positive) first
    rw [least]
    rfl

theorem numeral?_padded (register : UInt32) :
    numeral? 16 (Hex.padded 8 register.toNat) = some register.toNat := by
  have filled : Hex.padded 8 register.toNat ≠ [] :=
    List.ne_nil_of_length_eq_add_one (length_padded 8 register.toNat)
  have fits : register.toNat < 16 ^ 8 := register.toNat_lt
  rw [numeral?, if_neg filled, foldlM_padded, Nat.zero_mul, Nat.zero_add, Nat.mod_eq_of_lt fits]

theorem numeral?_decimal (number : Nat) :
    numeral? 10 (Command.decimal number) = some number := by
  rw [numeral?, if_neg (decimal_ne_nil number), foldlM_decimal]

end Numbers

/-! ## The line in its packet -/

section Packets

variable {line : Bytes} {register divider : UInt32}

theorem isLower_of_mem_encode {octet : UInt8} (membership : octet ∈ Hex.encode line) :
    IsLower octet := by
  obtain ⟨spelled, -, membership⟩ := List.mem_flatMap.mp membership
  have high : spelled / 16 < 16 := by grind
  have low : spelled % 16 < 16 := by grind
  simp only [Hex.encodeOctet, List.mem_cons, List.not_mem_nil, or_false] at membership
  rcases membership with rfl | rfl
  · exact isLower_digit high
  · exact isLower_digit low

theorem isReserved_of_isLower {octet : UInt8} (lower : IsLower octet) :
    Packet.isReserved octet = false := by
  unfold IsLower at lower
  simp only [Packet.isReserved, Packet.startMark, Packet.stopMark, Packet.escapeMark,
    Bool.or_eq_false_iff, beq_eq_false_iff_ne]
  grind

/-- Framing leaves a payload without reserved octets as it is. -/
theorem escape_of_unreserved {payload : Bytes}
    (unreserved : ∀ octet ∈ payload, Packet.isReserved octet = false) :
    Packet.escape payload = payload := by
  induction payload with
  | nil => rfl
  | cons octet rest inductionHypothesis =>
      have plain : Packet.escapeOctet octet = [octet] := by
        simp [Packet.escapeOctet, unreserved octet List.mem_cons_self]
      rw [Packet.escape_cons, plain, List.singleton_append,
        inductionHypothesis fun other membership => unreserved other (.tail octet membership)]

theorem unreserved_monitor (line : Bytes) :
    ∀ octet ∈ (Command.monitor line).payload, Packet.isReserved octet = false := by
  intro octet membership
  have verb : ∀ octet ∈ Command.monitorVerb, Packet.isReserved octet = false := by
    decide +kernel
  rcases List.mem_append.mp membership with inVerb | inDigits
  · exact verb octet inVerb
  · exact isReserved_of_isLower (isLower_of_mem_encode inDigits)

theorem frame_monitor (line : Bytes) :
    Packet.frame (Command.monitor line).payload =
      Packet.startMark :: ((Command.monitor line).payload ++
        Packet.stopMark :: Hex.encode [Packet.checksum (Command.monitor line).payload]) := by
  rw [Packet.frame, escape_of_unreserved (unreserved_monitor line)]
  simp [Hex.encode]

theorem escapeMark_notMem_frame (line : Bytes) :
    Packet.escapeMark ∉ Packet.frame (Command.monitor line).payload := by
  have reserved : Packet.isReserved Packet.escapeMark = true := by decide
  rw [frame_monitor]
  simp only [List.mem_cons, List.mem_append, not_or]
  refine ⟨by decide, fun inPayload => ?_, by decide, fun inTrailer => ?_⟩
  · exact absurd reserved (by simp [unreserved_monitor line _ inPayload])
  · exact absurd reserved (by simp [isReserved_of_isLower (isLower_of_mem_encode inTrailer)])

theorem extract_monitor (line : Bytes) :
    Packet.extract (Packet.frame (Command.monitor line).payload) =
      (Command.monitor line).payload := by
  have quiet : Packet.startMark ∉ ([] : Bytes) := List.not_mem_nil
  have read := (Packet.reply_frame_in_noise [] (Command.monitor line).payload [] quiet).1
  rwa [List.append_nil, List.nil_append, escape_of_unreserved (unreserved_monitor line)] at read

theorem dropPrefix?_append (start rest : Bytes) : (start ++ rest).dropPrefix? start = some rest :=
  List.dropPrefix?_eq_some_iff.mpr ⟨start, rfl, by simp⟩

theorem line?_frame (line : Bytes) :
    line? (Packet.frame (Command.monitor line).payload) = some line := by
  have payload : (Command.monitor line).payload = Bytes.ascii "qRcmd," ++ Hex.encode line := rfl
  rw [line?, extract_monitor, payload, dropPrefix?_append]
  simp [Hex.decode_encode, Except.toOption]

/-! ## The memory write -/

theorem space_notMem_padded (width number : Nat) : (0x20 : UInt8) ∉ Hex.padded width number := by
  intro membership
  rcases isLower_of_mem_padded membership with ⟨low, -⟩ | ⟨low, -⟩ <;> exact absurd low (by decide)

theorem space_notMem_decimal (number : Nat) : (0x20 : UInt8) ∉ Command.decimal number := by
  intro membership
  exact absurd ((isDecimal_decimal number).digit _ membership).1 (by decide)

/-- A memory write is three words, which no number cuts. -/
theorem words_memoryWrite (register divider : UInt32) :
    (Command.memoryWrite register divider).splitOn 0x20 =
      [Bytes.ascii "mw32", Bytes.ascii "0x" ++ Hex.padded 8 register.toNat,
        Command.decimal divider.toNat] := by
  have layout : Command.memoryWrite register divider =
      [0x20].intercalate [Bytes.ascii "mw32", Bytes.ascii "0x" ++ Hex.padded 8 register.toNat,
        Command.decimal divider.toNat] := by
    simp [Command.memoryWrite, List.intercalate, Bytes.ascii]
  rw [layout]
  apply List.splitOn_intercalate
  · intro word membership
    simp only [List.mem_cons, List.not_mem_nil, or_false] at membership
    rcases membership with rfl | rfl | rfl
    · decide
    · rw [List.mem_append, not_or]
      exact ⟨by decide, space_notMem_padded 8 register.toNat⟩
    · exact space_notMem_decimal divider.toNat
  · exact List.cons_ne_nil _ _

theorem memoryWrite?_memoryWrite (register divider : UInt32) :
    memoryWrite? (Command.memoryWrite register divider) =
      some (register.toNat, divider.toNat) := by
  rw [memoryWrite?, words_memoryWrite]
  simp [dropPrefix?_append, numeral?_padded, numeral?_decimal]

end Packets

/-- A line reaches the monitor as it was, in a packet that needs no unescaping. A memory write
names the register in eight digits and the value without a needless zero, the numbers read back
are the ones that were meant, and so no two writes share a packet. -/
theorem monitor_told_what_was_meant :
    (∀ line : Bytes,
      let payload := (Command.monitor line).payload
      let packet := Packet.frame payload
      Packet.escapeMark ∉ packet ∧ Packet.extract packet = payload ∧
        (∃ digits, payload = Bytes.ascii "qRcmd," ++ digits ∧ Hex.decode digits = .ok line) ∧
        line? packet = some line) ∧
    (∀ register divider : UInt32,
      let packet := Packet.frame (Command.setDivider register divider).payload
      ∃ line address amount, line? packet = some line ∧
        line = Bytes.ascii "mw32 0x" ++ address ++ 0x20 :: amount ∧
        address.length = 8 ∧ (∀ octet ∈ address, IsLower octet) ∧
        numeral? 16 address = some register.toNat ∧
        IsDecimal amount ∧ numeral? 10 amount = some divider.toNat ∧
        memoryWrite? line = some (register.toNat, divider.toNat)) ∧
    Function.Injective2 fun register divider : UInt32 =>
      Packet.frame (Command.setDivider register divider).payload := by
  refine ⟨fun line => ?_, fun register divider => ?_, ?_⟩
  · exact ⟨escapeMark_notMem_frame line, extract_monitor line,
      ⟨Hex.encode line, rfl, Hex.decode_encode line⟩, line?_frame line⟩
  · exact ⟨Command.memoryWrite register divider, Hex.padded 8 register.toNat,
      Command.decimal divider.toNat, line?_frame _, rfl, length_padded 8 _,
      fun _ => isLower_of_mem_padded, numeral?_padded register, isDecimal_decimal _,
      numeral?_decimal _, memoryWrite?_memoryWrite register divider⟩
  · intro register alsoRegister divider alsoDivider same
    have told : (line? (Packet.frame (Command.setDivider register divider).payload)).bind
          memoryWrite? =
        (line? (Packet.frame (Command.setDivider alsoRegister alsoDivider).payload)).bind
          memoryWrite? :=
      congrArg (fun packet => (line? packet).bind memoryWrite?) same
    simp only [Command.setDivider, line?_frame, Option.bind_some, memoryWrite?_memoryWrite,
      Option.some_inj, Prod.mk.injEq, UInt32.toNat_inj] at told
    exact told

/-- The address keeps its leading zeros, and the letters in it are small. -/
example :
    line? (Packet.frame (Command.setDivider 0xAB 33).payload) =
      some (Bytes.ascii "mw32 0x000000ab 33") := by
  decide

end BaudSwitch
