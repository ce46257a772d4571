import BaudSwitch.Proofs.Dialogue.Journal
import BaudSwitch.Proofs.Session.Books

/-!
# The journal of sessions and handshakes

All work on a session tells of its packets and acknowledgements before they are written, and of
each window after it was read, whatever becomes of the reply.  A handshake leaves all of this to
its sessions.
-/

namespace BaudSwitch

open Work

namespace Session

theorem journals_tell {notice : Notice} (aside : notice.Aside) : Journals (tell notice) :=
  fun _ => .note aside (.done _)

theorem journals_enter (traffic : Traffic) : Journals (enter traffic) :=
  journals_modify _

/-- A write and the notice before it, as packets and acknowledgements are written. -/
theorem journals_write (bytes : Bytes) (traffic : Traffic) :
    Journals (do tell (.sending bytes); let _ ← ask (.write bytes); enter traffic) := by
  intro session
  refine .write fun answer => ?_
  cases answer <;> exact .done _

theorem journals_send (command : Command) : Journals (send command) :=
  journals_write _ _

theorem journals_acknowledge : Journals acknowledge :=
  journals_write _ _

/-- A read and the notice after it, with whatever becomes of the window. -/
theorem journals_hear {Value : Type} {limit : UInt64} (judge : Bytes → SessionM Value)
    (journals : ∀ raw, Journals (judge raw)) :
    Journals (do let raw ← ask (.read limit); tell (.received raw); judge raw) := by
  intro session
  exact .read _ (fun raw => rfl) (fun raw => journals raw session) (fun cause => .done _)

theorem journals_receive : Journals receive := by
  refine journals_get.bind fun before => journals_hear _ fun raw => ?_
  refine journals_get.bind fun session => ?_
  have entering (body : Bytes) : Journals
      (do enter (.reply raw.length (body != [])); return body) :=
    (journals_enter _).bind fun _ => journals_pure body
  dsimp only
  split
  · exact (journals_pure _).bind entering
  · exact (journals_tell (by trivial)).bind fun _ => (journals_pure _).bind entering

theorem journals_request (command : Command) : Journals (request command) :=
  (journals_tell (by trivial)).bind fun _ => (journals_send command).bind fun _ => journals_receive

theorem journals_operation (operation : Operation) : Journals operation.work := by
  cases operation with
  | send command => exact (journals_send command).bind fun _ => journals_pure _
  | receive => exact journals_receive.bind fun _ => journals_pure _
  | request command => exact (journals_request command).bind fun _ => journals_pure _
  | acknowledge => exact journals_acknowledge.bind fun _ => journals_pure _

theorem journals_connect (options : Options) : (connect options).Journals := by
  refine .manage (.inl rfl) fun answer => ?_
  cases answer <;> exact .done _

theorem journals_close (session : Session) : session.close.Journals := by
  refine .manage (.inr rfl) fun answer => ?_
  cases answer <;> exact .done _

end Session

namespace Handshake

theorem journals_tell {notice : Notice} (aside : notice.Aside) : Journals (tell notice) :=
  fun _ => .note aside (.done _)

theorem journals_settle : Journals settle :=
  fun _ => .pause (.done _)

theorem journals_withSession {Value : Type} {work : SessionM Value} (journals : Journals work) :
    Journals (withSession work) := by
  intro handshake
  cases held : handshake.session with
  | none =>
      rw [withSession_of_absent held]
      exact .done _
  | some session =>
      rw [withSession_of_held held]
      exact (journals session).bind fun _ => .done _

theorem journals_openAt (baud : UInt32) : Journals (openAt baud) := by
  intro handshake
  rw [openAt_apply]
  refine .manage (.inl rfl) fun answer => ?_
  cases answer <;> exact .done _

theorem journals_closeSession : Journals closeSession := by
  intro handshake
  cases held : handshake.session with
  | none =>
      rw [closeSession_of_absent held]
      exact .done _
  | some session =>
      rw [closeSession_of_held held]
      refine .manage (.inr rfl) fun answer => ?_
      cases answer with
      | error cause => exact .done _
      | ok echo => exact .note trivial (.done _)

theorem journals_ask (command : Command) :
    Journals (withSession (Session.request command)) :=
  journals_withSession (Session.journals_request command)

theorem journals_acknowledge : Journals (withSession Session.acknowledge) :=
  journals_withSession Session.journals_acknowledge

theorem journals_switchSpeed : Journals switchSpeed := by
  refine journals_get.bind fun handshake => (journals_ask _).bind fun body => ?_
  split
  · exact journals_get.bind fun _ => journals_tell (by trivial)
  · refine journals_acknowledge.bind fun _ => (journals_tell (by trivial)).bind fun _ => ?_
    cases handshake.settings.divider? with
    | none => exact journals_throw _
    | some divider =>
        refine (journals_ask _).bind fun reply => ?_
        cases consoleOutput? reply with
        | none => exact journals_modify _
        | some output => exact (journals_tell (by trivial)).bind fun _ => journals_modify _

theorem journals_confirm : Journals confirm := by
  refine journals_acknowledge.bind fun _ => (journals_ask _).bind fun body => ?_
  split
  · exact journals_closeSession.bind fun _ => journals_pure _
  · exact journals_acknowledge.bind fun _ => journals_settle.bind fun _ =>
      journals_closeSession.bind fun _ => journals_pure _

theorem journals_perform (stage : Stage) : Journals (perform stage) := by
  cases stage with
  | openOld =>
      exact journals_get.bind fun _ => (journals_tell (by trivial)).bind fun _ =>
        (journals_openAt _).bind fun _ => journals_pure _
  | probe =>
      exact (journals_ask _).bind fun _ => journals_acknowledge.bind fun _ => journals_pure _
  | querySupportedOld => exact journals_switchSpeed.bind fun _ => journals_pure _
  | reopen =>
      exact journals_closeSession.bind fun _ => journals_settle.bind fun _ =>
        journals_get.bind fun _ => (journals_tell (by trivial)).bind fun _ =>
          (journals_openAt _).bind fun _ => journals_pure _
  | querySupportedNew => exact journals_confirm.bind fun _ => journals_pure _
  | done outcome => exact journals_pure _

theorem journals_step : Journals step :=
  journals_get.bind fun _ => (journals_perform _).bind fun _ =>
    (journals_tell (by trivial)).bind fun _ => (journals_modify _).bind fun _ => journals_pure _

theorem journals_steps (count : Nat) : Journals (steps count) := by
  induction count with
  | zero => exact journals_pure _
  | succ count inductionHypothesis =>
      refine journals_step.bind fun next => ?_
      cases next with
      | done outcome => exact journals_pure _
      | _ => exact inductionHypothesis

theorem journals_run : Journals run :=
  (journals_steps 5).bind fun _ => journals_get.bind fun _ => journals_pure _

theorem journals_attempts (count : Nat) (handshake : Handshake) :
    (attempts count handshake).Journals := by
  induction count generalizing handshake with
  | zero => exact .done _
  | succ count inductionHypothesis =>
      exact (journals_step handshake).bind fun ended =>
        (inductionHypothesis ended.2).bind fun _ => .done _

end Handshake

end BaudSwitch
