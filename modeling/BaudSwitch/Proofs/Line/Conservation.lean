import BaudSwitch.Line
import Mathlib.Data.List.Forall2

/-!
# What read windows take off a line

A window takes octets from the front of what a line brings, read by read, and leaves the rest as it
was.  So windows read one after another on the same line, whatever their limits and lengths, lose
no octet, repeat none, and keep the order.  Only a window that fails keeps to itself what its reads
took.
-/

namespace BaudSwitch

/-! ## One read after another -/

namespace Line

/-- What one read of at most `room` octets takes, and what it leaves of the arrivals. -/
def readOnce (room : Nat) : List Arrival → Bytes × List Arrival
  | [] => ([], [])
  | .data bytes _ :: later => (bytes.take room, leave (bytes.drop room) later)
  | _ :: later => ([], later)

/-- What the reads among these acts take one after another, and what they leave. -/
def replay : List Act → List Arrival → Bytes × List Arrival
  | [], arrivals => ([], arrivals)
  | .limitRead _ :: later, arrivals => replay later arrivals
  | .read room _ :: later, arrivals =>
      let (bytes, left) := readOnce room arrivals
      let (more, last) := replay later left
      (bytes ++ more, last)

/-- The octets that arrivals bring. -/
def brought (arrivals : List Arrival) : Bytes :=
  pending { arrivals }

theorem pending_eq (line : Line) : line.pending = brought line.arrivals := rfl

@[simp]
theorem brought_nil : brought [] = [] := rfl

@[simp]
theorem brought_data (bytes : Bytes) (delay : Nat) (later : List Arrival) :
    brought (.data bytes delay :: later) = bytes ++ brought later := rfl

@[simp]
theorem brought_failure (kind : Arrival.Failure) (reason : String) (later : List Arrival) :
    brought (.failure kind reason :: later) = brought later := rfl

@[simp]
theorem brought_leave (bytes : Bytes) (later : List Arrival) :
    brought (leave bytes later) = bytes ++ brought later := by
  by_cases nothing : bytes = [] <;> simp [leave, nothing]

theorem readOnce_conserves (room : Nat) (arrivals : List Arrival) :
    (readOnce room arrivals).1 ++ brought (readOnce room arrivals).2 = brought arrivals := by
  cases arrivals with
  | nil => rfl
  | cons arrival later =>
      cases arrival with
      | data bytes delay => simp [readOnce, ← List.append_assoc]
      | _ => rfl

/-- What was taken and what is left make up what was there. -/
theorem replay_conserves (acts : List Act) (arrivals : List Arrival) :
    (replay acts arrivals).1 ++ brought (replay acts arrivals).2 = brought arrivals := by
  induction acts generalizing arrivals with
  | nil => rfl
  | cons act later inductionHypothesis =>
      cases act with
      | limitRead milliseconds => exact inductionHypothesis arrivals
      | read room time =>
          simp only [replay, List.append_assoc, inductionHypothesis, readOnce_conserves]

end Line

/-! ## One window -/

namespace Window

@[simp]
theorem acts_doing (acts : List Line.Act) (window : Window) :
    (window.doing acts).acts = acts ++ window.acts := rfl

@[simp]
theorem line_doing (acts : List Line.Act) (window : Window) :
    (window.doing acts).line = window.line := rfl

@[simp]
theorem result_doing (acts : List Line.Act) (window : Window) :
    (window.doing acts).result = window.result := rfl

@[simp]
theorem acts_after (bytes : Bytes) (window : Window) :
    (window.after bytes).acts = window.acts := rfl

@[simp]
theorem line_after (bytes : Bytes) (window : Window) :
    (window.after bytes).line = window.line := rfl

theorem result_after_eq_ok_iff {bytes whole : Bytes} {window : Window} :
    (window.after bytes).result = .ok whole ↔
      ∃ rest, window.result = .ok rest ∧ bytes ++ rest = whole := by
  cases returned : window.result <;> simp [after, returned, Except.map]

/-- The reads of the window, made one by one on the arrivals that it met, take at most `room`
octets, just those that it returns unless it fails, and leave what it leaves. -/
structure Accounts (window : Window) (room : Nat) (arrivals : List Arrival) : Prop where
  bounded : (Line.replay window.acts arrivals).1.length ≤ room
  returned : ∀ bytes, window.result = .ok bytes → (Line.replay window.acts arrivals).1 = bytes
  left : (Line.replay window.acts arrivals).2 = window.line.arrivals

variable {room : Nat} {arrivals later : List Arrival} {window : Window}

theorem Accounts.limited (accounts : window.Accounts room arrivals) (milliseconds : Nat) :
    (window.doing [.limitRead milliseconds]).Accounts room arrivals :=
  ⟨accounts.bounded, accounts.returned, accounts.left⟩

/-- A read in front of a window, of octets that are returned with it. -/
theorem Accounts.behind {bytes : Bytes} (time : Nat)
    (taken : Line.readOnce room arrivals = (bytes, later)) (fits : bytes.length ≤ room)
    (accounts : window.Accounts (room - bytes.length) later) :
    ((window.after bytes).doing [.read room time]).Accounts room arrivals := by
  have replayed : Line.replay ((window.after bytes).doing [.read room time]).acts arrivals =
      (bytes ++ (Line.replay window.acts later).1, (Line.replay window.acts later).2) := by
    simp [Line.replay, taken]
  constructor
  · have bounded := accounts.bounded
    rw [replayed, List.length_append]
    omega
  · intro whole succeeded
    obtain ⟨rest, returned, rfl⟩ := result_after_eq_ok_iff.mp succeeded
    rw [replayed, accounts.returned rest returned]
  · rw [replayed]
    exact accounts.left

/-- A read in front of a window that brought nothing. -/
theorem Accounts.behind_nothing (time : Nat)
    (taken : Line.readOnce room arrivals = ([], later)) (accounts : window.Accounts room later) :
    (window.doing [.read room time]).Accounts room arrivals := by
  have replayed : Line.replay (window.doing [.read room time]).acts arrivals =
      Line.replay window.acts later := by
    simp [Line.replay, taken]
  constructor
  · rw [replayed]
    exact accounts.bounded
  · rw [replayed]
    exact accounts.returned
  · rw [replayed]
    exact accounts.left

end Window

namespace Line

variable {refusal : Nat → Option PortError} {deadline turn room : Nat} {clock : Clock}
  {arrivals : List Arrival}

theorem stop_accounts : (stop clock arrivals).Accounts room arrivals where
  bounded := Nat.zero_le room
  returned := by
    intro bytes succeeded
    cases succeeded
    rfl
  left := rfl

theorem fail_accounts (cause : PortError) : (fail cause clock arrivals).Accounts room arrivals where
  bounded := Nat.zero_le room
  returned := by
    intro bytes succeeded
    cases succeeded
  left := rfl

/-- A read takes octets that fit whole. -/
theorem readOnce_of_fits {bytes : Bytes} (fits : bytes.length ≤ room) (delay : Nat) :
    readOnce room (.data bytes delay :: arrivals) = (bytes, arrivals) := by
  simp [readOnce, List.take_of_length_le fits, List.drop_of_length_le fits, leave]

/-- The invariant of the loop, whatever the clock does and whichever read may not be limited. -/
theorem collect_accounts :
    (collect refusal deadline turn room clock arrivals).Accounts room arrivals := by
  fun_induction collect refusal deadline turn room clock arrivals with
  | case1 => exact stop_accounts
  | case2 => exact stop_accounts
  | case3 turn room clock arrivals _ clock _ cause => exact (fail_accounts cause).limited _
  | case4 turn room _ arrivals _ clock _ _ inductionHypothesis =>
      apply @Window.Accounts.limited room arrivals (Window.doing [.read room clock.now] _)
      cases arrivals with
      | nil => exact stop_accounts.behind_nothing _ rfl
      | cons arrival later =>
          cases arrival with
          | failure kind reason =>
              cases kind with
              | timedOut => exact stop_accounts.behind_nothing _ rfl
              | interrupted => exact inductionHypothesis.behind_nothing _ rfl
              | _ => exact (fail_accounts (.io reason)).behind_nothing _ rfl
          | data bytes delay =>
              dsimp only
              by_cases nothing : bytes = []
              · subst nothing
                exact stop_accounts.behind_nothing _ (readOnce_of_fits (Nat.zero_le room) delay)
              · rw [if_neg nothing]
                by_cases fits : bytes.length ≤ room
                · rw [if_pos fits]
                  exact inductionHypothesis.behind _ (readOnce_of_fits fits delay) fits
                · rw [if_neg fits]
                  exact stop_accounts.behind _ rfl (List.length_take_le room bytes)

/-- Without room or time a window ends before it does anything. -/
theorem collect_of_closed (closed : room = 0 ∨ deadline ≤ clock.look.now) :
    ∃ last : Clock, collect refusal deadline turn room clock arrivals = stop last arrivals := by
  unfold collect
  by_cases full : room = 0
  · exact ⟨clock, if_pos full⟩
  · have elapsed := closed.resolve_left full
    exact ⟨clock.look, by simp only [if_neg full, if_pos elapsed]⟩

/-! ## One window after another -/

/-- A window to be read: how many octets it takes at most, how many milliseconds it lasts, and
which attempts to limit a read fail in it. -/
structure Span where
  limit : Nat
  length : Nat
  refusal : Nat → Option PortError := fun _ => none

def listen (line : Line) (span : Span) : Window :=
  line.readWindow span.limit span.length span.refusal

/-- Read one window after another, whatever comes of each. -/
def listenInTurn : Line → List Span → List Answer × Line
  | line, [] => ([], line)
  | line, span :: later =>
      let window := line.listen span
      let (results, last) := window.line.listenInTurn later
      (window.result :: results, last)

/-- The octets that the reads of a window take off the line, if it fails too. -/
def took (line : Line) (span : Span) : Bytes :=
  (replay (line.listen span).acts line.arrivals).1

/-- The time of a window is up when the clock is first looked at in it. -/
def Elapsed (line : Line) (span : Span) : Prop :=
  line.clock.look.now + span.length ≤ line.clock.look.look.now

theorem elapsed_of_no_time {line : Line} {span : Span} (instant : span.length = 0) :
    line.Elapsed span := by
  have onward (clock : Clock) : clock.now ≤ clock.look.now := by
    unfold Clock.look
    split
    · exact Nat.le_refl _
    · exact Nat.le_add_right _ _
  rw [Elapsed, instant]
  exact onward _

section Spans

variable {line : Line} {span : Span}

theorem listen_accounts : (line.listen span).Accounts span.limit line.arrivals :=
  collect_accounts

/-- What a window takes is gone from the line, and nothing else is. -/
theorem took_append_pending : line.took span ++ (line.listen span).line.pending = line.pending := by
  rw [pending_eq, ← listen_accounts.left]
  exact replay_conserves _ _

theorem took_of_ok {bytes : Bytes} (succeeded : (line.listen span).result = .ok bytes) :
    line.took span = bytes ∧ bytes.length ≤ span.limit := by
  have same : line.took span = bytes := listen_accounts.returned bytes succeeded
  exact ⟨same, same ▸ listen_accounts.bounded⟩

theorem listenInTurn_conserves {spans : List Span} {buffers : List Bytes}
    (succeeded : (line.listenInTurn spans).1 = buffers.map .ok) :
    buffers.flatten ++ (line.listenInTurn spans).2.pending = line.pending ∧
      List.Forall₂ (fun buffer span => buffer.length ≤ span.limit) buffers spans := by
  induction spans generalizing line buffers with
  | nil =>
      cases List.map_eq_nil_iff.mp succeeded.symm
      exact ⟨rfl, .nil⟩
  | cons span later inductionHypothesis =>
      obtain ⟨buffer, others, rfl, first, rest⟩ := List.map_eq_cons_iff.mp succeeded.symm
      obtain ⟨taken, bounded⟩ := took_of_ok first.symm
      obtain ⟨conserved, fitted⟩ := inductionHypothesis rest.symm
      refine ⟨?_, .cons bounded fitted⟩
      calc
        (buffer :: others).flatten ++ (line.listenInTurn (span :: later)).2.pending =
            buffer ++ (others.flatten ++
              ((line.listen span).line.listenInTurn later).2.pending) := List.append_assoc _ _ _
        _ = line.took span ++ (line.listen span).line.pending := by rw [conserved, taken]
        _ = line.pending := took_append_pending

end Spans

/-- Windows that all succeed, read in turn, return what has gone from the line, in its order and
within their limits.  A window without room or time does nothing.  And what is missing after a
window that failed is what its reads took. -/
theorem windows_conserve_octets (line : Line) :
    (∀ (spans : List Span) (buffers : List Bytes),
      (line.listenInTurn spans).1 = buffers.map .ok →
        buffers.flatten ++ (line.listenInTurn spans).2.pending = line.pending ∧
        List.Forall₂ (fun buffer span => buffer.length ≤ span.limit) buffers spans) ∧
    (∀ span : Span, span.limit = 0 ∨ span.length = 0 ∨ line.Elapsed span →
      (line.listen span).acts = [] ∧ (line.listen span).line.arrivals = line.arrivals ∧
        (line.listen span).result = .ok []) ∧
    ∀ (span : Span) (cause : PortError), (line.listen span).result = .error cause →
      line.took span ++ (line.listen span).line.pending = line.pending := by
  refine ⟨fun spans buffers => listenInTurn_conserves, ?_, fun span cause _ => took_append_pending⟩
  intro span closed
  have closed : span.limit = 0 ∨ line.Elapsed span :=
    closed.imp_right fun late => late.elim elapsed_of_no_time id
  obtain ⟨last, stopped⟩ : ∃ last, line.listen span = stop last line.arrivals :=
    collect_of_closed closed
  rw [stopped]
  exact ⟨rfl, rfl, rfl⟩

/-- The first window fills up inside a chunk, the next one takes the rest of it and falls silent,
one has no room, and the last one fails behind a read. -/
theorem windows_conserve_octets_resumed :
    let line : Line :=
      { arrivals :=
          [.data [0x24, 0x4F] 0, .failure .interrupted "again", .data [0x4B, 0x23, 0x39] 0,
            .failure .timedOut "late", .data [0x61] 0, .failure .other "gone", .data [0x2B] 0] }
    let spans : List Span :=
      [{ limit := 3, length := 200 }, { limit := 8, length := 200 }, { limit := 0, length := 200 }]
    let left := (line.listenInTurn spans).2
    let last : Span := { limit := 8, length := 200 }
    [0x24, 0x4F, 0x4B, 0x23, 0x39] ++ left.pending = line.pending ∧
      (left.listen { limit := 0, length := 200 }).acts = [] ∧
      (left.listen last).result = .error (.io "gone") ∧
      [0x61] ++ (left.listen last).line.pending = left.pending := by
  intro line spans left last
  have failed : (left.listen last).result = .error (.io "gone") := by decide +kernel
  have returned : (line.listenInTurn spans).1 =
      [[0x24, 0x4F, 0x4B], [0x23, 0x39], []].map .ok := by decide +kernel
  obtain ⟨conserved, -⟩ := (windows_conserve_octets line).1 spans _ returned
  obtain ⟨-, closed, missing⟩ := windows_conserve_octets left
  have taken : left.took last = [0x61] := by decide +kernel
  exact ⟨conserved, (closed { limit := 0, length := 200 } (.inl rfl)).1, failed,
    taken ▸ missing last _ failed⟩

end Line

end BaudSwitch
