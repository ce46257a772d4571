import BaudSwitch.Proofs.Line.Delivery

/-!
# Keeping to the deadline

Before each read a window looks at the clock and lets the read take what is left until the
deadline.  So no limit is zero and none is longer than one before it, no read begins without room
or time, and as every read but the last uses up an arrival, a window makes at most one read more
than there are arrivals.
-/

namespace BaudSwitch

namespace Line

def Act.limit? : Act → Option Nat
  | .limitRead milliseconds => some milliseconds
  | .read _ _ => none

def Act.isRead : Act → Bool
  | .limitRead _ => false
  | .read _ _ => true

/-- How long reads were to take at most, attempt by attempt. -/
def limits (acts : List Act) : List Nat :=
  acts.filterMap Act.limit?

/-- How many reads there are among the acts. -/
def reads (acts : List Act) : Nat :=
  acts.countP Act.isRead

/-- What arrives first is more than a read with this room takes. -/
def Partly (room : Nat) : List Arrival → Prop
  | .data bytes _ :: _ => room < bytes.length
  | _ => False

/-- A read of a window that takes `limit` octets at most, between what the window did before it
and what it did after it. -/
structure Timely (deadline limit : Nat) (arrivals : List Arrival) (before : List Act)
    (room time : Nat) (after : List Act) : Prop where
  /-- Right before the read comes the limit that ends it at the deadline. -/
  limited : ∃ earlier, before = earlier ++ [.limitRead (deadline - time)]
  early : time < deadline
  roomy : 0 < room
  /-- The room is what the reads before this one have left. -/
  left : room = limit - (replay before arrivals).1.length
  last : Partly room (replay before arrivals).2 → after = []

section Acts

variable {milliseconds room time : Nat} {acts : List Act}

@[simp]
theorem limits_nil : limits [] = [] := rfl

@[simp]
theorem limits_limitRead :
    limits (.limitRead milliseconds :: acts) = milliseconds :: limits acts := rfl

@[simp]
theorem limits_read : limits (.read room time :: acts) = limits acts := rfl

@[simp]
theorem reads_nil : reads [] = 0 := rfl

@[simp]
theorem reads_limitRead : reads (.limitRead milliseconds :: acts) = reads acts := rfl

@[simp]
theorem reads_read : reads (.read room time :: acts) = reads acts + 1 :=
  List.countP_cons_of_pos rfl

end Acts

end Line

/-! ## One turn of the loop -/

namespace Window

/-- The window makes its attempts and reads in time, counted from attempt `turn` on, at `now` or
later, with `room` octets to take off these arrivals. -/
structure KeepsTime (window : Window) (refusal : Nat → Option PortError)
    (deadline turn now room : Nat) (arrivals : List Arrival) : Prop where
  reads_le : Line.reads window.acts ≤ arrivals.length + 1
  bounded : ∀ milliseconds ∈ Line.limits window.acts,
    0 < milliseconds ∧ milliseconds ≤ deadline - now
  shrinking : (Line.limits window.acts).Pairwise (· ≥ ·)
  allowed : ∀ attempt < Line.reads window.acts, refusal (turn + attempt) = none
  attempts : (Line.limits window.acts).length = Line.reads window.acts ∨
    (Line.limits window.acts).length = Line.reads window.acts + 1 ∧
      ∃ cause, refusal (turn + Line.reads window.acts) = some cause ∧
        window.result = .error cause
  timely : ∀ before size time after, window.acts = before ++ .read size time :: after →
    Line.Timely deadline room arrivals before size time after

namespace KeepsTime

open Line (Act readOnce replay reads limits Partly Timely)

variable {refusal : Nat → Option PortError} {deadline turn now room time : Nat}
  {arrivals later : List Arrival} {bytes : Bytes} {window : Window}

theorem of_idle (idle : window.acts = []) :
    window.KeepsTime refusal deadline turn now room arrivals where
  reads_le := by simp [idle]
  bounded := by simp [idle]
  shrinking := by simp [idle]
  allowed := by simp [idle]
  attempts := by simp [idle]
  timely := by simp [idle]

theorem after (keeps : window.KeepsTime refusal deadline turn now room arrivals)
    (earlier : Bytes) :
    (window.after earlier).KeepsTime refusal deadline turn now room arrivals where
  reads_le := keeps.reads_le
  bounded := keeps.bounded
  shrinking := keeps.shrinking
  allowed := keeps.allowed
  attempts := by
    apply keeps.attempts.imp_right
    rintro ⟨one, cause, refuses, failed⟩
    refine ⟨one, cause, refuses, ?_⟩
    simp [Window.after, failed, Except.map]
  timely := keeps.timely

/-- An attempt that fails is the last one. -/
theorem refused {cause : PortError} (refuses : refusal turn = some cause) (onward : now ≤ time)
    (early : time < deadline) (clock : Clock) :
    ((Line.fail cause clock arrivals).doing [.limitRead (deadline - time)]).KeepsTime refusal
      deadline turn now room arrivals where
  reads_le := Nat.zero_le _
  bounded := by
    intro milliseconds set
    obtain rfl : milliseconds = deadline - time := by simpa [Line.fail] using set
    omega
  shrinking := List.pairwise_singleton _ _
  allowed := by
    intro attempt made
    cases made
  attempts := .inr ⟨rfl, cause, refuses, rfl⟩
  timely := by
    intro before size readAt after split
    rcases before with _ | ⟨first, _ | ⟨second, before⟩⟩ <;> simp [Line.fail] at split

/-- The next read, where another one follows only after an arrival that was taken whole. -/
theorem timely_behind (hungry : 0 < room) (early : time < deadline)
    (taken : readOnce room arrivals = (bytes, later))
    (whole : window.acts ≠ [] → ¬ Partly room arrivals)
    (inner : ∀ before size readAt after, window.acts = before ++ .read size readAt :: after →
      Timely deadline (room - bytes.length) later before size readAt after)
    {before after : List Act} {size readAt : Nat}
    (split : .limitRead (deadline - time) :: .read room time :: window.acts =
      before ++ .read size readAt :: after) :
    Timely deadline room arrivals before size readAt after := by
  match before, split with
  | [limit], split =>
      simp only [List.cons_append, List.nil_append, List.cons.injEq, Act.read.injEq] at split
      obtain ⟨rfl, ⟨rfl, rfl⟩, rfl⟩ := split
      refine ⟨⟨[], rfl⟩, early, hungry, rfl, fun partly => ?_⟩
      by_contra more
      exact whole more partly
  | limit :: read :: before, split =>
      simp only [List.cons_append, List.cons.injEq] at split
      obtain ⟨rfl, rfl, split⟩ := split
      have replayed : replay (.limitRead (deadline - time) :: .read room time :: before) arrivals =
          (bytes ++ (replay before later).1, (replay before later).2) := by
        simp [replay, taken]
      obtain ⟨⟨earlier, limited⟩, stillEarly, roomy, left, last⟩ := inner before _ _ _ split
      refine ⟨⟨_ :: _ :: earlier, by rw [limited]; rfl⟩, stillEarly, roomy, ?_, ?_⟩
      · rw [replayed, List.length_append, left, Nat.sub_sub]
      · rw [replayed]
        exact last

/-- A read in front of a window that keeps time. -/
theorem behind {next : Nat} (allows : refusal turn = none) (hungry : 0 < room)
    (onward : now ≤ time) (early : time < deadline) (later_le : time ≤ next)
    (taken : readOnce room arrivals = (bytes, later))
    (whole : window.acts ≠ [] → later.length < arrivals.length ∧ ¬ Partly room arrivals)
    (keeps : window.KeepsTime refusal deadline (turn + 1) next (room - bytes.length) later) :
    (window.doing [.limitRead (deadline - time), .read room time]).KeepsTime refusal deadline turn
      now room arrivals where
  reads_le := by
    have inner := keeps.reads_le
    by_cases idle : window.acts = []
    · simp [idle]
    · have shorter := (whole idle).1
      simp only [acts_doing, List.cons_append, List.nil_append, Line.reads_limitRead,
        Line.reads_read]
      omega
  bounded := by
    intro milliseconds set
    simp only [acts_doing, List.cons_append, List.nil_append, Line.limits_limitRead,
      Line.limits_read, List.mem_cons] at set
    rcases set with rfl | set
    · omega
    · have inner := keeps.bounded milliseconds set
      omega
  shrinking := by
    apply List.Pairwise.cons
    · intro milliseconds set
      have inner := keeps.bounded milliseconds set
      omega
    · exact keeps.shrinking
  allowed := by
    intro attempt made
    cases attempt with
    | zero => exact allows
    | succ attempt =>
        have inner := keeps.allowed attempt (by simpa using made)
        rwa [Nat.add_assoc, Nat.add_comm 1] at inner
  attempts := by
    have counted : turn + 1 + reads window.acts = turn + (reads window.acts + 1) := by omega
    have inner := keeps.attempts
    rw [counted] at inner
    simpa using inner
  timely := by
    intro before size readAt after split
    exact timely_behind hungry early taken (fun more => (whole more).2) keeps.timely split

/-- A read that the window ends with. -/
theorem ends (idle : window.acts = []) (allows : refusal turn = none) (hungry : 0 < room)
    (onward : now ≤ time) (early : time < deadline) :
    (window.doing [.limitRead (deadline - time), .read room time]).KeepsTime refusal deadline turn
      now room arrivals :=
  behind allows hungry onward early (Nat.le_refl time) rfl (fun more => absurd idle more)
    (of_idle idle)

end KeepsTime

end Window

/-! ## The whole window -/

namespace Line

variable {refusal : Nat → Option PortError} {deadline turn room : Nat} {clock : Clock}
  {arrivals : List Arrival}

/-- The invariant of the loop, whatever the clock does and whichever attempt fails. -/
theorem collect_keepsTime :
    (collect refusal deadline turn room clock arrivals).KeepsTime refusal deadline turn clock.now
      room arrivals := by
  fun_induction collect refusal deadline turn room clock arrivals with
  | case1 => exact .of_idle rfl
  | case2 => exact .of_idle rfl
  | case3 turn room start arrivals _ clock inTime cause refuses =>
      have onward : start.now ≤ clock.now := by simp [clock, Clock.now_look]
      exact .refused refuses onward (Nat.not_le.mp inTime) clock
  | case4 turn room start arrivals hungry clock inTime allows inductionHypothesis =>
      have onward : start.now ≤ clock.now := by simp [clock, Clock.now_look]
      have early : clock.now < deadline := Nat.not_le.mp inTime
      have roomy : 0 < room := Nat.pos_of_ne_zero hungry
      cases arrivals with
      | nil => exact .ends rfl allows roomy onward early
      | cons arrival later =>
          cases arrival with
          | failure kind reason =>
              cases kind with
              | interrupted =>
                  exact .behind allows roomy onward early (Nat.le_refl _) rfl
                    (fun _ => ⟨Nat.lt_succ_self _, id⟩) inductionHypothesis
              | _ => exact .ends rfl allows roomy onward early
          | data bytes delay =>
              dsimp only
              by_cases nothing : bytes = []
              · rw [if_pos nothing]
                exact .ends rfl allows roomy onward early
              · rw [if_neg nothing]
                by_cases fits : bytes.length ≤ room
                · rw [if_pos fits]
                  exact .behind allows roomy onward early (Nat.le_add_right _ delay)
                    (readOnce_of_fits fits delay)
                    (fun _ => ⟨Nat.lt_succ_self _, Nat.not_lt.mpr fits⟩)
                    (inductionHypothesis.after bytes)
                · rw [if_neg fits]
                  exact .ends rfl allows roomy onward early

/-- What a window does, whatever comes on the line, however the clock runs and whichever attempt to
limit a read fails.  It makes at most one read more than there are arrivals; it limits each read
right before it, to a time above zero, within the window and not longer than the one before; it
makes as many attempts to do so as reads, and one more where that one fails; no read begins without
room or time; and only the last one can take a part of an arrival. -/
theorem readWindow_keeps_deadline (line : Line) (limit length : Nat)
    (refusal : Nat → Option PortError) :
    let window := line.readWindow limit length refusal
    let deadline := line.clock.look.now + length
    reads window.acts ≤ line.arrivals.length + 1 ∧
    (∀ milliseconds ∈ limits window.acts, 0 < milliseconds ∧ milliseconds ≤ length) ∧
    (limits window.acts).Pairwise (· ≥ ·) ∧
    (∀ attempt < reads window.acts, refusal attempt = none) ∧
    ((limits window.acts).length = reads window.acts ∨
      (limits window.acts).length = reads window.acts + 1 ∧
        ∃ cause, refusal (reads window.acts) = some cause ∧ window.result = .error cause) ∧
    ∀ before room time after, window.acts = before ++ .read room time :: after →
      (∃ earlier, before = earlier ++ [.limitRead (deadline - time)]) ∧
      time < deadline ∧
      0 < room ∧ room = limit - (replay before line.arrivals).1.length ∧
      (Partly room (replay before line.arrivals).2 → after = []) := by
  intro window deadline
  have keeps : window.KeepsTime refusal deadline 0 line.clock.look.now limit line.arrivals :=
    collect_keepsTime
  have whole : deadline - line.clock.look.now = length := Nat.add_sub_cancel_left _ _
  have allowed := keeps.allowed
  have attempts := keeps.attempts
  simp only [Nat.zero_add] at allowed attempts
  refine ⟨keeps.reads_le, whole ▸ keeps.bounded, keeps.shrinking, allowed, attempts, ?_⟩
  intro before room time after split
  obtain ⟨limited, early, roomy, left, last⟩ := keeps.timely before room time after split
  exact ⟨limited, early, roomy, left, last⟩

/-- A disturbed read, a chunk that takes its time and one that does not fit; then the same line,
where the third attempt to limit a read fails. -/
theorem readWindow_keeps_deadline_disturbed :
    let line : Line :=
      { arrivals :=
          [.failure .interrupted "again", .data [0x24, 0x4F] 30, .data [0x4B, 0x23, 0x39] 0,
            .failure .timedOut "late"]
        clock := { now := 1000, lapses := [5, 10, 0, 20] } }
    let refusal := fun attempt => if attempt = 2 then some (PortError.io "gone") else none
    let window := line.readWindow 4 200
    let broken := line.readWindow 4 200 refusal
    window.acts = [.limitRead 190, .read 4 1015, .limitRead 190, .read 4 1015, .limitRead 140] ++
        .read 2 1065 :: [] ∧
      reads window.acts ≤ 5 ∧ (limits window.acts).Pairwise (· ≥ ·) ∧
      (limits window.acts).length = reads window.acts ∧
      (limits broken.acts).length = reads broken.acts + 1 ∧ refusal (reads broken.acts) ≠ none := by
  intro line refusal window broken
  have acts : window.acts =
      [.limitRead 190, .read 4 1015, .limitRead 190, .read 4 1015, .limitRead 140] ++
        .read 2 1065 :: [] := by decide +kernel
  obtain ⟨few, -, shrinking, -, attempts, -⟩ :=
    readWindow_keeps_deadline line 4 200 fun _ => none
  obtain ⟨-, -, -, -, failing, -⟩ := readWindow_keeps_deadline line 4 200 refusal
  have oneMore : (limits broken.acts).length ≠ reads broken.acts := by decide +kernel
  obtain ⟨counted, cause, refuses, -⟩ := failing.resolve_left oneMore
  have paired : (limits window.acts).length = reads window.acts := by
    refine attempts.resolve_right ?_
    rintro ⟨-, cause, refuses, -⟩
    cases refuses
  exact ⟨acts, few, shrinking, paired, counted, refuses ▸ Option.some_ne_none cause⟩

end Line

end BaudSwitch
