import BaudSwitch.Proofs.Packet.Framing
import Mathlib.Data.Set.Function

/-!
# The grammar of bodies

A body is a row of units: an octet that is not reserved stands for itself, and an escape mark
followed by one of three octets stands for a reserved one.  Escaping writes every such row, each
for one payload only, and nothing else; undoing the escapes of any other row loses what it was.
-/

namespace BaudSwitch.Packet

/-- The octets that reserved ones are changed to. -/
def Escaped (octet : UInt8) : Prop :=
  octet = 0x03 ∨ octet = 0x04 ∨ octet = 0x5D

instance (octet : UInt8) : Decidable (Escaped octet) :=
  inferInstanceAs (Decidable (_ ∨ _))

inductive Body : Bytes → Prop where
  | nil : Body []
  | plain {octet rest} : octet ≠ stopMark → octet ≠ startMark → octet ≠ escapeMark →
      Body rest → Body (octet :: rest)
  | escaped {octet rest} : Escaped octet → Body rest → Body (escapeMark :: octet :: rest)

/-- What no unit begins with: a mark that is bare, an escape that changes no reserved octet, and an
escape mark at the end. -/
inductive Fault : Bytes → Prop where
  | bare {mark rest} : mark = startMark ∨ mark = stopMark → Fault (mark :: rest)
  | needless {octet rest} : ¬ Escaped octet → Fault (escapeMark :: octet :: rest)
  | trailing : Fault [escapeMark]

/-- The row stands in a packet between the start mark and the last three octets. -/
def Encloses (packet row : Bytes) : Prop :=
  ∃ high low, packet = startMark :: (row ++ [stopMark, high, low])

/-! ## What escaping writes -/

theorem escaped_of_reserved {octet : UInt8} (reserved : isReserved octet = true) :
    Escaped (octet ^^^ escapeMask) := by
  rcases (isReserved_iff octet).mp reserved with rfl | rfl | rfl <;> decide

theorem reserved_of_escaped {octet : UInt8} (escaped : Escaped octet) :
    isReserved (octet ^^^ escapeMask) = true := by
  rcases escaped with rfl | rfl | rfl <;> decide

theorem body_escapeOctet_append (octet : UInt8) {rest : Bytes} (body : Body rest) :
    Body (escapeOctet octet ++ rest) := by
  unfold escapeOctet
  split
  next reserved => exact .escaped (escaped_of_reserved reserved) body
  next unreserved =>
    simp only [isReserved_iff, not_or] at unreserved
    exact .plain unreserved.2.1 unreserved.1 unreserved.2.2 body

theorem body_escape (payload : Bytes) : Body (escape payload) := by
  induction payload with
  | nil => exact .nil
  | cons octet payload inductionHypothesis =>
      exact body_escapeOctet_append octet inductionHypothesis

theorem Body.escape_unescape {row : Bytes} (body : Body row) : escape (unescape row) = row := by
  induction body with
  | nil => rfl
  | @plain octet rest unstopped unstarted ordinary _ inductionHypothesis =>
      have unreserved : ¬ isReserved octet = true := by
        simp [isReserved_iff, unstarted, unstopped, ordinary]
      rw [unescape_cons ordinary, escape_cons, inductionHypothesis, escapeOctet,
        if_neg unreserved, List.singleton_append]
  | @escaped octet rest escaped _ inductionHypothesis =>
      rw [unescape_escapeMark_cons, escape_cons, inductionHypothesis, escapeOctet,
        if_pos (reserved_of_escaped escaped), UInt8.xor_assoc, UInt8.xor_self, UInt8.xor_zero]
      rfl

theorem escape_unescape_eq_iff {row : Bytes} : escape (unescape row) = row ↔ Body row := by
  constructor
  · intro same
    rw [← same]
    exact body_escape _
  · exact Body.escape_unescape

theorem escape_injective : Function.Injective escape :=
  Function.LeftInverse.injective unescape_escape

theorem bijOn_escape : Set.BijOn escape Set.univ {row | Body row} := by
  refine ⟨fun payload _ => body_escape payload, escape_injective.injOn, ?_⟩
  intro row body
  exact ⟨unescape row, trivial, body.escape_unescape⟩

/-! ## Bodies of packets -/

theorem length_frame (payload : Bytes) : (frame payload).length = (escape payload).length + 4 := by
  simp [frame, Hex.encodeOctet]

@[simp]
theorem extract_frame (payload : Bytes) : extract (frame payload) = escape payload :=
  @extract_of_stopped [] _ List.not_mem_nil (stopMark_notMem_escape payload) _

theorem frame_injective : Function.Injective frame := by
  intro first second same
  have sameBody := congrArg extract same
  rw [extract_frame, extract_frame] at sameBody
  exact escape_injective sameBody

theorem encloses_frame_iff {payload row : Bytes} :
    Encloses (frame payload) row ↔ row = escape payload := by
  constructor
  · rintro ⟨high, low, same⟩
    exact (List.append_inj' (List.cons.inj same).2 rfl).1.symm
  · rintro rfl
    exact ⟨_, _, rfl⟩

theorem exists_encloses_iff {row : Bytes} :
    (∃ payload, Encloses (frame payload) row) ↔ Body row := by
  simp only [encloses_frame_iff]
  constructor
  · rintro ⟨payload, rfl⟩
    exact body_escape payload
  · intro body
    exact ⟨unescape row, body.escape_unescape.symm⟩

/-! ## Rows outside the grammar -/

theorem body_cons_iff {octet : UInt8} {rest : Bytes} (ordinary : octet ≠ escapeMark) :
    Body (octet :: rest) ↔ (octet ≠ startMark ∧ octet ≠ stopMark) ∧ Body rest := by
  constructor
  · intro body
    cases body with
    | plain unstopped unstarted _ body => exact ⟨⟨unstarted, unstopped⟩, body⟩
    | escaped => exact absurd rfl ordinary
  · rintro ⟨⟨unstarted, unstopped⟩, body⟩
    exact .plain unstopped unstarted ordinary body

theorem body_escapeMark_cons_iff {octet : UInt8} {rest : Bytes} :
    Body (escapeMark :: octet :: rest) ↔ Escaped octet ∧ Body rest := by
  constructor
  · intro body
    cases body with
    | plain _ _ ordinary => exact absurd rfl ordinary
    | escaped escaped body => exact ⟨escaped, body⟩
  · rintro ⟨escaped, body⟩
    exact .escaped escaped body

/-- Units in front decide nothing about what stands behind them. -/
theorem Body.append_iff {front rest : Bytes} (body : Body front) :
    Body (front ++ rest) ↔ Body rest := by
  induction body with
  | nil => rfl
  | plain unstopped unstarted ordinary _ inductionHypothesis =>
      rw [List.cons_append, body_cons_iff ordinary, inductionHypothesis]
      exact and_iff_right ⟨unstarted, unstopped⟩
  | escaped escaped _ inductionHypothesis =>
      rw [List.cons_append, List.cons_append, body_escapeMark_cons_iff, inductionHypothesis]
      exact and_iff_right escaped

theorem Fault.not_body {row : Bytes} (fault : Fault row) : ¬ Body row := by
  intro body
  cases fault with
  | @bare mark rest isMark =>
      have ordinary : mark ≠ escapeMark := by
        rcases isMark with rfl | rfl <;> decide
      have unmarked := ((body_cons_iff ordinary).mp body).1
      exact isMark.elim unmarked.1 unmarked.2
  | needless unescaped => exact unescaped (body_escapeMark_cons_iff.mp body).1
  | trailing =>
      cases body with
      | plain _ _ ordinary => exact ordinary rfl

/-- The row leaves the grammar behind its first units. -/
def Strays (row : Bytes) : Prop :=
  ∃ front rest, row = front ++ rest ∧ Body front ∧ Fault rest

theorem Strays.behind {unit row : Bytes} (body : Body unit) (strays : Strays row) :
    Strays (unit ++ row) := by
  obtain ⟨front, rest, rfl, bodyFront, fault⟩ := strays
  exact ⟨unit ++ front, rest, (List.append_assoc ..).symm, body.append_iff.mpr bodyFront, fault⟩

theorem Fault.strays {row : Bytes} (fault : Fault row) : Strays row :=
  ⟨[], row, rfl, .nil, fault⟩

theorem body_or_strays (row : Bytes) : Body row ∨ Strays row := by
  -- The cases are those of undoing escapes, which takes a row unit by unit.
  induction row using unescape.induct with
  | case1 => exact .inl .nil
  | case2 => exact .inr Fault.trailing.strays
  | case3 octet ordinary =>
      by_cases isMark : octet = startMark ∨ octet = stopMark
      · exact .inr (Fault.bare isMark).strays
      · rw [not_or] at isMark
        exact .inl (.plain isMark.2 isMark.1 ordinary .nil)
  | case4 next rest inductionHypothesis =>
      by_cases escaped : Escaped next
      · exact inductionHypothesis.imp (.escaped escaped) (.behind (.escaped escaped .nil))
      · exact .inr (Fault.needless escaped).strays
  | case5 octet next rest ordinary inductionHypothesis =>
      by_cases isMark : octet = startMark ∨ octet = stopMark
      · exact .inr (Fault.bare isMark).strays
      · rw [not_or] at isMark
        have plain {later : Bytes} : Body later → Body (octet :: later) :=
          .plain isMark.2 isMark.1 ordinary
        exact inductionHypothesis.imp plain (.behind (plain .nil))

theorem not_body_iff_strays {row : Bytes} : ¬ Body row ↔ Strays row := by
  constructor
  · exact (body_or_strays row).resolve_left
  · rintro ⟨front, rest, rfl, body, fault⟩ whole
    exact fault.not_body (body.append_iff.mp whole)

/-- Escaping is one to one onto the rows of units.  These are the rows that undoing and redoing
escapes leaves alone, and the bodies of all packets; a row with a bare mark, a needless escape or
an escape mark at its end is the body of none. -/
theorem escaping_bijective :
    Set.BijOn escape Set.univ {row | Body row} ∧ Function.Injective frame ∧
      ∀ row, (escape (unescape row) = row ↔ Body row) ∧
        ((∃ payload, Encloses (frame payload) row) ↔ Body row) ∧
        ((∀ payload, ¬ Encloses (frame payload) row) ↔ Strays row) := by
  refine ⟨bijOn_escape, frame_injective, ?_⟩
  intro row
  refine ⟨escape_unescape_eq_iff, exists_encloses_iff, ?_⟩
  rw [← not_exists, exists_encloses_iff]
  exact not_body_iff_strays

/-- An escape mark in front of a bare start mark is a needless escape. -/
example : Strays [0x61, escapeMark, startMark] :=
  ⟨[0x61], _, rfl, .plain (by decide) (by decide) (by decide) .nil, .needless (by decide)⟩

end BaudSwitch.Packet
