import BaudSwitch.Port.Script
import BaudSwitch.Proofs.Packet.Stream
import BaudSwitch.Proofs.Session.Courses
import Mathlib.Data.List.Basic

/-!
# What a session was heard to say

A session says commands and acknowledgements, each with one write.  Different commands carry
different payloads, so whoever has only the octets of all its writes, end to end, knows what it
said and in which order; what could not be written left no octets.
-/

namespace BaudSwitch

namespace Command

/-- The two verbs differ in their second octet. -/
theorem queryVerb_ne_monitor (line : Bytes) : queryVerb ≠ (monitor line).payload := by
  intro same
  have begun := congrArg (List.take monitorVerb.length) same
  rw [payload, List.take_left] at begun
  exact absurd begun (by decide)

theorem payload_injective : Function.Injective payload := by
  intro first second same
  cases first with
  | probe =>
      cases second with
      | probe => rfl
      | querySupported => exact absurd same (by decide)
      | monitor line => cases same
  | querySupported =>
      cases second with
      | probe => exact absurd same (by decide)
      | querySupported => rfl
      | monitor line => exact absurd same (queryVerb_ne_monitor line)
  | monitor line =>
      cases second with
      | probe => cases same
      | querySupported => exact absurd same.symm (queryVerb_ne_monitor line)
      | monitor other =>
          have digits : Hex.encode line = Hex.encode other := List.append_cancel_left same
          exact congrArg monitor (Hex.encode_injective digits)

end Command

namespace Session

open Work Packet

/-- What a session can say. -/
inductive Utterance where
  | command (words : Command)
  | acknowledgement
  deriving DecidableEq, Repr

namespace Utterance

/-- What the far end receives of it. -/
def item : Utterance → Item
  | .command words => .packet words.payload
  | .acknowledgement => .acknowledgement

/-- The work of saying it. -/
def work : Utterance → SessionM Unit
  | .command words => send words
  | .acknowledgement => acknowledge

theorem item_injective : Function.Injective item := by
  intro first second same
  cases first with
  | command words =>
      cases second with
      | command other =>
          apply congrArg Utterance.command
          exact Command.payload_injective (Item.packet.inj same)
      | acknowledgement => cases same
  | acknowledgement =>
      cases second with
      | command other => cases same
      | acknowledgement => rfl

variable {session after : Session} {exchanges : List Exchange}

/-- Each utterance is one write of its item; if that fails, nothing of it was written. -/
theorem written_of_performs {utterance : Utterance} {result : Except PortError Unit}
    (course : Performs utterance.work session exchanges result after) :
    exchanges.filterMap Exchange.written? =
      match result with
      | .ok _ => [utterance.item.encode]
      | .error _ => [] := by
  cases utterance with
  | command words =>
      cases writes_of_performs_send course with
      | failed cause => rfl
      | written echo => rfl
  | acknowledgement =>
      cases acknowledges_of_performs course with
      | failed cause => rfl
      | written echo => rfl

end Utterance

/-- An utterance with what came of it. -/
abbrev Attempt := Utterance × Except PortError Unit

/-- The utterance, if it was written. -/
def Attempt.uttered? : Attempt → Option Utterance
  | (utterance, .ok _) => some utterance
  | _ => none

/-- Say one thing after another, whatever comes of each. -/
def sayInTurn : List Utterance → Session → Dialogue (List Attempt × Session)
  | [], session => return ([], session)
  | utterance :: later, session => do
      let (result, middle) ← utterance.work session
      let (attempts, last) ← sayInTurn later middle
      return ((utterance, result) :: attempts, last)

/-- What was written of it all. -/
def uttered (attempts : List Attempt) : List Utterance :=
  attempts.filterMap Attempt.uttered?

section Courses

variable {utterance : Utterance} {utterances later : List Utterance} {session after : Session}
  {exchanges : List Exchange} {attempts : List Attempt}

theorem attempted_nil_of_yields
    (course : (sayInTurn [] session).Yields exchanges (attempts, after)) :
    exchanges = [] ∧ attempts = [] := by
  obtain ⟨rfl, ended⟩ := Dialogue.yields_done_iff.mp course
  cases ended
  exact ⟨rfl, rfl⟩

/-- The first utterance is tried, and the others are said in turn whatever came of it. -/
theorem attempted_cons_of_yields
    (course : (sayInTurn (utterance :: later) session).Yields exchanges (attempts, after)) :
    ∃ result middle others now rest, exchanges = now ++ rest ∧
      attempts = (utterance, result) :: others ∧
      Performs utterance.work session now result middle ∧
      (sayInTurn later middle).Yields rest (others, after) := by
  obtain ⟨⟨result, middle⟩, now, _, rfl, saying, more⟩ := Dialogue.yields_bind_iff.mp course
  obtain ⟨⟨others, last⟩, rest, _, rfl, going, ending⟩ := Dialogue.yields_bind_iff.mp more
  obtain ⟨rfl, ended⟩ := Dialogue.yields_done_iff.mp ending
  cases ended
  exact ⟨result, middle, others, now, rest, by rw [List.append_nil], rfl, saying, going⟩

theorem attempted_of_yields
    (course : (sayInTurn utterances session).Yields exchanges (attempts, after)) :
    attempts.map Prod.fst = utterances := by
  induction utterances generalizing session exchanges attempts with
  | nil =>
      obtain ⟨-, rfl⟩ := attempted_nil_of_yields course
      rfl
  | cons utterance later inductionHypothesis =>
      obtain ⟨result, middle, others, _, _, -, rfl, -, going⟩ := attempted_cons_of_yields course
      rw [List.map_cons, inductionHypothesis going]

/-- What was written is what was uttered, item by item. -/
theorem written_of_yields
    (course : (sayInTurn utterances session).Yields exchanges (attempts, after)) :
    exchanges.filterMap Exchange.written? =
      (uttered attempts).map fun utterance => utterance.item.encode := by
  induction utterances generalizing session exchanges attempts with
  | nil =>
      obtain ⟨rfl, rfl⟩ := attempted_nil_of_yields course
      rfl
  | cons utterance later inductionHypothesis =>
      obtain ⟨result, middle, others, now, _, rfl, rfl, saying, going⟩ :=
        attempted_cons_of_yields course
      rw [List.filterMap_append, inductionHypothesis going, Utterance.written_of_performs saying]
      cases result with
      | ok value => rfl
      | error cause => rfl

end Courses

/-- What could be written all was said. -/
theorem uttered_of_unfailing {attempts : List Attempt}
    (unfailing : ∀ attempt ∈ attempts, attempt.2 = .ok ()) :
    uttered attempts = attempts.map Prod.fst := by
  apply List.filterMap_eq_map_iff_forall_eq_some.mpr
  rintro ⟨utterance, result⟩ membership
  cases unfailing _ membership
  rfl

/-- The far end receives what was uttered. -/
theorem received_of_sayInTurn {Port : Type} [Answering Port] (utterances : List Utterance)
    (session : Session) (port : Port) :
    let said := (sayInTurn utterances session).run port
    Receiver.idle.feed said.transcript.writes.flatten =
      (.idle, (uttered said.value.1).map Utterance.item) := by
  intro said
  have written := written_of_yields (Dialogue.yields_run (sayInTurn utterances session) port)
  rw [← Transcript.writes_eq] at written
  have stream : said.transcript.writes.flatten =
      ((uttered said.value.1).map Utterance.item).flatMap Item.encode := by
    rw [written, ← List.flatMap_def, List.flatMap_map]
  rw [stream]
  exact Receiver.feed_encodings _

/-- A stream of items is read back whatever the chunks it comes in, so it is the stream of one
list only; and as commands differ in their payloads, the octets that a session wrote, end to end,
tell the commands and acknowledgements that it said, and their order. -/
theorem stream_determines_utterances :
    (∀ (items : List Item) (chunks : List Bytes), chunks.flatten = items.flatMap Item.encode →
      Receiver.idle.feedChunks chunks = (.idle, items)) ∧
    (Function.Injective fun items : List Item => items.flatMap Item.encode) ∧
    Function.Injective Command.payload ∧
    ∀ {Port Other : Type} [Answering Port] [Answering Other] (utterances others : List Utterance)
      (session another : Session) (port : Port) (other : Other),
      let first := (sayInTurn utterances session).run port
      let second := (sayInTurn others another).run other
      first.transcript.writes.flatten = second.transcript.writes.flatten →
        uttered first.value.1 = uttered second.value.1 ∧
        ((∀ attempt ∈ first.value.1, attempt.2 = .ok ()) →
          (∀ attempt ∈ second.value.1, attempt.2 = .ok ()) → utterances = others) := by
  refine ⟨fun items chunks => Receiver.feedChunks_encodings, flatMap_encode_injective,
    Command.payload_injective, ?_⟩
  intro Port Other _ _ utterances others session another port other first second same
  have heard := received_of_sayInTurn utterances session port
  have alsoHeard := received_of_sayInTurn others another other
  -- One stream has one reading, and both runs left this one.
  have items := heard.symm.trans ((congrArg Receiver.idle.feed same).trans alsoHeard)
  have agree : uttered first.value.1 = uttered second.value.1 :=
    (List.map_inj_right fun _ _ => Utterance.item_injective.eq_iff.mp).mp (congrArg Prod.snd items)
  refine ⟨agree, fun unfailing alsoUnfailing => ?_⟩
  calc utterances = first.value.1.map Prod.fst :=
        (attempted_of_yields (Dialogue.yields_run _ _)).symm
    _ = uttered first.value.1 := (uttered_of_unfailing unfailing).symm
    _ = uttered second.value.1 := agree
    _ = second.value.1.map Prod.fst := uttered_of_unfailing alsoUnfailing
    _ = others := attempted_of_yields (Dialogue.yields_run _ _)

/-- Three runs leave the same octets on the line: they uttered the same, though a write fails in
the second one, and the third one spells a divider out.  The chunks of the stream end inside
packets, whose payloads hold every mark. -/
theorem stream_determines_utterances_marks :
    let session : Session := { baud := 115200, maxResponse := 64, verifyChecksums := false }
    let utterances : List Utterance :=
      [.command .probe, .acknowledgement, .command (.setDivider 0x20215068 33)]
    let others : List Utterance :=
      [.command .probe, .command .querySupported, .acknowledgement,
        .command (.setDivider 0x20215068 33)]
    let spelled : List Utterance :=
      [.command .probe, .acknowledgement,
        .command (.monitor (Bytes.ascii "mw32 0x20215068 33"))]
    let port : Script := { replies := [] }
    let faulty : Script :=
      { replies := []
        fault := fun kind before =>
          if kind = .write ∧ before = 1 then some (.io "unplugged") else none }
    let first := (sayInTurn utterances session).run port
    let second := (sayInTurn others session).run faulty
    let third := (sayInTurn spelled { session with baud := 921600 }).run port
    let items : List Item :=
      [.acknowledgement, .packet [0x2B, 0x24, 0x23, 0x7D, 0x33], .packet [], .acknowledgement]
    let chunks : List Bytes :=
      [[0x2B, 0x24, 0x2B, 0x7D], [], [0x04, 0x7D, 0x03, 0x7D], [0x5D, 0x33, 0x23, 0x32],
        Bytes.ascii "2$#00+"]
    Receiver.idle.feedChunks chunks = (.idle, items) ∧
      first.transcript.writes.flatten = second.transcript.writes.flatten ∧
      first.transcript.writes.flatten = third.transcript.writes.flatten ∧
      uttered first.value.1 = uttered second.value.1 ∧ uttered first.value.1 = utterances ∧
      utterances = spelled := by
  intro session utterances others spelled port faulty first second third items chunks
  have cut : chunks.flatten = items.flatMap Item.encode := by decide +kernel
  have alsoFaulty : first.transcript.writes.flatten = second.transcript.writes.flatten := by
    decide +kernel
  have alsoSpelled : first.transcript.writes.flatten = third.transcript.writes.flatten := by
    decide +kernel
  obtain ⟨received, -, -, determined⟩ := stream_determines_utterances
  have same := determined utterances spelled session { session with baud := 921600 } port port
    alsoSpelled
  exact ⟨received items chunks cut, alsoFaulty, alsoSpelled,
    (determined utterances others session session port faulty alsoFaulty).1, by decide +kernel,
    same.2 (by decide +kernel) (by decide +kernel)⟩

end Session

end BaudSwitch
