import BaudSwitch.Program
import BaudSwitch.Proofs.Handshake.Ownership

/-!
# What a handshake opens

Whatever the port answers, the only port that a handshake tries to open is the one of its
settings, and the only rates are the initial and the target rate.
-/

namespace BaudSwitch

/-- If this tries to open a port, it is the one of the settings, at one of their two rates. -/
def Exchange.OpensAsSet (line : LineSettings) : Exchange → Prop
  | (.connect port baud _, _) =>
      port = line.port ∧ (baud = line.initialBaud ∨ baud = line.targetBaud)
  | _ => True

/-- Whatever is opened is opened as the settings say. -/
def OpensAsSet (line : LineSettings) (exchanges : List Exchange) : Prop :=
  ∀ exchange ∈ exchanges, exchange.OpensAsSet line

section History

variable {line : LineSettings} {first second exchanges : List Exchange}

@[simp]
theorem opensAsSet_nil : OpensAsSet line [] := by
  simp [OpensAsSet]

@[simp]
theorem opensAsSet_cons (exchange : Exchange) (rest : List Exchange) :
    OpensAsSet line (exchange :: rest) ↔ exchange.OpensAsSet line ∧ OpensAsSet line rest :=
  List.forall_mem_cons

@[simp]
theorem opensAsSet_append :
    OpensAsSet line (first ++ second) ↔ OpensAsSet line first ∧ OpensAsSet line second :=
  List.forall_mem_append

@[simp]
theorem opensAsSet_close (answer : Answer) : Exchange.OpensAsSet line (.close, answer) := trivial

theorem opensAsSet_of_staysOpen (stays : StaysOpen exchanges) : OpensAsSet line exchanges := by
  rintro ⟨call, answer⟩ made
  have onLine := stays _ made
  cases call with
  | connect => exact onLine.elim
  | _ => trivial

end History

namespace Handshake

variable {handshake after : Handshake} {exchanges : List Exchange}

section Stages

variable {result : Except HandshakeError Stage}

theorem Opens.opensAsSet {baud : UInt32} {next : Stage}
    (rate : baud = handshake.settings.line.initialBaud ∨
      baud = handshake.settings.line.targetBaud)
    (course : handshake.Opens baud next exchanges result after) :
    OpensAsSet handshake.settings.line exchanges := by
  cases course with
  | refused cause => exact (opensAsSet_cons _ _).mpr ⟨⟨rfl, rate⟩, opensAsSet_nil⟩
  | opened echo => exact (opensAsSet_cons _ _).mpr ⟨⟨rfl, rate⟩, opensAsSet_nil⟩

theorem Reopens.opensAsSet (course : handshake.Reopens exchanges result after) :
    OpensAsSet handshake.settings.line exchanges := by
  cases course with
  | unclosed closing =>
      cases closing with
      | failed held cause => simp
  | closed closing opening =>
      cases closing with
      | absent absent => simpa using opening.opensAsSet (.inr rfl)
      | closed held echo =>
          have opened := opening.opensAsSet (.inr rfl)
          exact opensAsSet_append.mpr ⟨by simp, opened⟩

theorem Confirms.opensAsSet (course : handshake.Confirms exchanges result after) :
    OpensAsSet handshake.settings.line exchanges := by
  by_cases absent : handshake.session = none
  · obtain ⟨rfl, -⟩ := course.of_absent absent
    exact opensAsSet_nil
  · rcases course.ends absent with ⟨stays, -⟩ | ⟨speaking, answer, rfl, stays, -⟩
    · exact opensAsSet_of_staysOpen stays
    · simp [opensAsSet_of_staysOpen stays]

theorem Pursues.opensAsSet {stage : Stage}
    (course : handshake.Pursues stage exchanges result after) :
    OpensAsSet handshake.settings.line exchanges := by
  cases stage with
  | openOld => exact Opens.opensAsSet (.inl rfl) course
  | probe => exact opensAsSet_of_staysOpen (Probes.staysOpen course)
  | querySupportedOld => exact opensAsSet_of_staysOpen (Switches.staysOpen course)
  | reopen => exact Reopens.opensAsSet course
  | querySupportedNew => exact Confirms.opensAsSet course
  | done outcome =>
      obtain ⟨rfl, -⟩ := course
      exact opensAsSet_nil

theorem Moves.opensAsSet (move : handshake.Moves exchanges result after) :
    OpensAsSet handshake.settings.line exchanges := by
  obtain ⟨_, course⟩ := move.pursues
  exact course.opensAsSet

end Stages

theorem Runs.opensAsSet {result : Except HandshakeError Report}
    (configured : handshake.Configured) (unopened : handshake.Unopened)
    (course : Runs handshake exchanges result after) :
    OpensAsSet handshake.settings.line exchanges := by
  induction course with
  | failed move => exact move.opensAsSet
  | finished move => exact move.opensAsSet
  | onward move unfinished rest inductionHypothesis =>
      have kept := move.keeps configured unopened
      have later := inductionHypothesis kept.configured (move.unopened unopened)
      rw [kept.settings] at later
      exact opensAsSet_append.mpr ⟨move.opensAsSet, later⟩

end Handshake

namespace Program

theorem exchanges_of_notes {Value : Type} {first second : Notice} {value ended : Value}
    {exchanges : List Exchange}
    (course : (Dialogue.note first (.note second (.done value))).Yields exchanges ended) :
    exchanges = [] :=
  (Dialogue.yields_done_iff.mp (Dialogue.yields_note_iff.mp (Dialogue.yields_note_iff.mp course))).1

theorem opensAsSet_handshake {Port : Type} [Answering Port] (settings : Settings) (port : Port) :
    OpensAsSet settings.line ((handshake settings).run port).transcript.calls := by
  have course := Dialogue.yields_run (handshake settings) port
  obtain ⟨⟨result, last⟩, earlier, later, split, running, telling⟩ :=
    Dialogue.yields_bind_iff.mp course
  -- The last words of the journal make no call.
  have quiet : later = [] := by
    cases result with
    | error cause => exact (Dialogue.yields_done_iff.mp telling).1
    | ok report =>
        dsimp only at telling
        split at telling <;> exact exchanges_of_notes telling
  have runs := Handshake.runs_of_performs running
  rw [split, quiet, List.append_nil]
  exact runs.opensAsSet (Handshake.configured_new settings) (Handshake.unopened_new settings)

end Program

end BaudSwitch
