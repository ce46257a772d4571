import BaudSwitch.Proofs.Handshake.Completion
import Mathlib.Algebra.Ring.Nat
import Mathlib.Data.List.Basic

/-!
# Accounts of a handshake

The totals that a run reports are counted from the whole history of the handshake, the steps before
the run and the failed ones among them included.  They hold for as long as every close succeeds,
since only a close hands the books of a session over.
-/

namespace BaudSwitch

namespace Traffic

/-- The books of a line on which these octets were written, write by write, and these windows
were taken. -/
def counted (verify : Bool) (written taken : List Bytes) : Traffic where
  packetsSent := written.countP (· ≠ Packet.acknowledgement)
  packetsReceived := taken.countP (Session.said verify · ≠ [])
  acksSent := written.count Packet.acknowledgement
  bytesSent := (written.map List.length).sum
  bytesReceived := (taken.map List.length).sum

theorem counted_append (verify : Bool) (written alsoWritten taken alsoTaken : List Bytes) :
    counted verify (written ++ alsoWritten) (taken ++ alsoTaken) =
      counted verify written taken + counted verify alsoWritten alsoTaken := by
  change _ = add _ _
  simp [counted, add]

/-- One exchange counts for what crossed the line in it. -/
theorem ofExchange_eq_counted (verify : Bool) (exchange : Exchange) :
    ofExchange verify exchange =
      counted verify exchange.written?.toList exchange.taken?.toList := by
  rcases exchange with ⟨_ | bytes | limit | _, cause | brought⟩
  case write.ok =>
    by_cases acknowledged : bytes = Packet.acknowledgement
    · subst acknowledged
      rfl
    · simp [ofExchange, counted, Exchange.written?, Exchange.taken?, packet, acknowledged]
  case read.ok =>
    by_cases silent : Session.said verify brought = [] <;>
      simp [ofExchange, counted, Exchange.written?, Exchange.taken?, reply, silent]
  all_goals rfl

theorem tally_eq_counted (verify : Bool) (exchanges : List Exchange) :
    tally verify exchanges =
      counted verify (exchanges.filterMap Exchange.written?)
        (exchanges.filterMap Exchange.taken?) := by
  simp only [List.filterMap_eq_flatMap_toList]
  induction exchanges with
  | nil => rfl
  | cons exchange rest inductionHypothesis =>
      rw [tally, List.flatMap_cons, List.flatMap_cons, counted_append, ← ofExchange_eq_counted,
        inductionHypothesis]

end Traffic

namespace Handshake

/-- While every close succeeds, a run that follows any number of steps, failed ones tried again
among them, reports all that was written and read since the first step, and all of it once. -/
theorem report_accounts_for_all_traffic {Port : Type} [Answering Port] (settings : Settings)
    (port : Port) (count : Nat) (report : Report)
    (closes : ¬ FailsToClose (wholeHistory settings port count))
    (completed : (completion settings port count).value.1 = .ok report) :
    let written := (wholeHistory settings port count).filterMap Exchange.written?
    let taken := (wholeHistory settings port count).filterMap Exchange.taken?
    report.traffic = Traffic.counted settings.verifyChecksums written taken ∧
      ∀ bytes ∈ written, bytes = Packet.acknowledgement ∨
        ∃ command : Command, bytes = Packet.frame command.payload := by
  intro written taken
  have reached := reaches_completion settings port count
  obtain ⟨same, closed⟩ := completion_ends completed
  have kept := reached.keeps.books fun cause membership => closes ⟨cause, membership⟩
  constructor
  · -- The last session is closed by then, so that the report holds all the books there are.
    calc
      report.traffic = (completion settings port count).value.2.books := by
        rw [same, books, closed]
        rfl
      _ = Traffic.tally settings.verifyChecksums (wholeHistory settings port count) := by
        rw [kept]
        exact Traffic.empty_add _
      _ = Traffic.counted settings.verifyChecksums written taken := Traffic.tally_eq_counted _ _
  · intro bytes membership
    exact reached.worded.written membership

/-- The window behind the divider fails once, and so does the second opening; both steps are tried
again. -/
theorem report_accounts_for_all_traffic_retried :
    let settings : Settings := {}
    let script : Script :=
      { replies := [[], Bytes.ascii "$OK#9a", Bytes.ascii "$OK#9a", Bytes.ascii "+$O",
          Bytes.ascii "+$OK#9a"]
        fault := fun kind before =>
          if kind = .read ∧ before = 2 ∨ kind = .connect ∧ before = 1 then some (.io "unplugged")
          else none }
    let history := wholeHistory settings script 5
    let report : Report :=
      { outcome := .confirmed, divider := some 33, speedChangeSent := true
        traffic :=
          { packetsSent := 6, packetsReceived := 4, acksSent := 5, bytesSent := 143
            bytesReceived := 22 } }
    ¬ FailsToClose history ∧ (completion settings script 5).value.1 = .ok report ∧
      report.traffic = Traffic.counted false (history.filterMap Exchange.written?)
        (history.filterMap Exchange.taken?) := by
  intro settings script history report
  have closes : ¬ FailsToClose history := by
    have sound : history.all fun exchange =>
        exchange.1.kind != .close || exchange.succeeded?.isSome := by decide +kernel
    rintro ⟨cause, membership⟩
    cases List.all_eq_true.mp sound _ membership
  have completed : (completion settings script 5).value.1 = .ok report := by decide +kernel
  exact ⟨closes, completed,
    (report_accounts_for_all_traffic settings script 5 report closes completed).1⟩

end Handshake

end BaudSwitch
