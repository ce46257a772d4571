import BaudSwitch.Line

/-!
# What a read window returns

A window listens until something stops it.  What it returns depends on the octets it heard by then
and on what stopped it, and on nothing else: neither on the pieces in which the octets came, nor on
disturbed reads between them.  Time passes here only while octets are awaited.
-/

namespace BaudSwitch

/-- What stops a window that still has room. -/
inductive Stopper where
  /-- The line has nothing more to say. -/
  | exhausted
  /-- A read timed out. -/
  | silence
  /-- A read that succeeded and brought no octets. -/
  | emptyRead
  /-- Octets that took all the time that was left. -/
  | late
  /-- A read failed that neither timed out nor was disturbed. -/
  | failure (reason : String)
  deriving DecidableEq, Repr

namespace Stopper

/-- What a window returns that was stopped so, after it heard these octets. -/
def outcome (stopper : Stopper) (limit : Nat) (octets : Bytes) : Answer :=
  match stopper with
  | .failure reason =>
      if octets.length < limit then .error (.io reason) else .ok (octets.take limit)
  | _ => .ok (octets.take limit)

theorem outcome_of_full (stopper : Stopper) {limit : Nat} {octets : Bytes}
    (full : limit ≤ octets.length) : stopper.outcome limit octets = .ok (octets.take limit) := by
  cases stopper with
  | failure reason => exact if_neg (Nat.not_lt.mpr full)
  | _ => rfl

/-- Octets that fit are put in front of whatever comes out behind them. -/
theorem outcome_append (stopper : Stopper) {limit : Nat} {first : Bytes}
    (fits : first.length ≤ limit) (rest : Bytes) :
    stopper.outcome limit (first ++ rest) =
      (stopper.outcome (limit - first.length) rest).map (first ++ ·) := by
  have taken : (first ++ rest).take limit = first ++ rest.take (limit - first.length) := by
    rw [List.take_append, List.take_of_length_le fits]
  cases stopper with
  | failure reason =>
      by_cases room : rest.length < limit - first.length
      · have roomBefore : (first ++ rest).length < limit := by
          rw [List.length_append]
          omega
        simp only [outcome, if_pos room, if_pos roomBefore, Except.map]
      · have noRoomBefore : ¬ (first ++ rest).length < limit := by
          rw [List.length_append]
          omega
        simp only [outcome, if_neg room, if_neg noRoomBefore, Except.map, taken]
  | _ => simp only [outcome, Except.map, taken]

theorem outcome_eq_error_iff {stopper : Stopper} {limit : Nat} {octets : Bytes}
    {cause : PortError} :
    stopper.outcome limit octets = .error cause ↔
      ∃ reason, stopper = .failure reason ∧ octets.length < limit ∧ cause = .io reason := by
  constructor
  · intro failed
    cases stopper with
    | failure reason =>
        by_cases room : octets.length < limit
        · rw [outcome, if_pos room] at failed
          cases failed
          exact ⟨reason, rfl, room, rfl⟩
        · rw [outcome, if_neg room] at failed
          cases failed
    | _ => cases failed
  · rintro ⟨reason, rfl, room, rfl⟩
    exact if_pos room

theorem outcome_eq_ok_iff {stopper : Stopper} {limit : Nat} {octets : Bytes} :
    stopper.outcome limit octets = .ok (octets.take limit) ↔
      ¬ ∃ reason, stopper = .failure reason ∧ octets.length < limit := by
  constructor
  · rintro succeeded ⟨reason, rfl, room⟩
    rw [outcome, if_pos room] at succeeded
    cases succeeded
  · intro unfailed
    cases stopper with
    | failure reason =>
        apply if_neg
        intro room
        exact unfailed ⟨reason, rfl, room⟩
    | _ => rfl

end Stopper

namespace Line

/-- The octets of all arrivals before the one that stops a window with so much time left, and of
that one if it is only late. -/
def heard : (remaining : Nat) → List Arrival → Bytes
  | _, [] => []
  | remaining, .failure kind _ :: later =>
      match kind with
      | .interrupted => heard remaining later
      | _ => []
  | remaining, .data bytes delay :: later =>
      if bytes = [] ∨ remaining ≤ delay then bytes else bytes ++ heard (remaining - delay) later

/-- The first arrival that stops a window with so much time left. -/
def stopper : (remaining : Nat) → List Arrival → Stopper
  | _, [] => .exhausted
  | remaining, .failure kind reason :: later =>
      match kind with
      | .timedOut => .silence
      | .interrupted => stopper remaining later
      | _ => .failure reason
  | remaining, .data bytes delay :: later =>
      if bytes = [] then .emptyRead
      else if remaining ≤ delay then .late
      else stopper (remaining - delay) later

section Collect

variable {refusal : Nat → Option PortError} {deadline turn room : Nat} {clock : Clock}
  {arrivals : List Arrival}

theorem look_of_steady (steady : clock.lapses = []) : clock.look = clock := by
  rw [Clock.look, steady]

theorem collect_of_full : (collect refusal deadline turn 0 clock arrivals).result = .ok [] := by
  rw [collect, if_pos rfl]
  rfl

theorem collect_of_elapsed (steady : clock.lapses = []) (elapsed : deadline ≤ clock.now) :
    (collect refusal deadline turn room clock arrivals).result = .ok [] := by
  unfold collect
  simp only [look_of_steady steady, if_pos elapsed, ite_self, stop]

/-- One read of a window that has room and time: what it meets decides what comes out. -/
theorem collect_of_open (certain : ∀ attempt, refusal attempt = none)
    (steady : clock.lapses = []) (early : clock.now < deadline) (hungry : room ≠ 0) :
    (collect refusal deadline turn room clock arrivals).result =
      match arrivals with
      | [] => .ok []
      | .failure kind reason :: later =>
          match kind with
          | .timedOut => .ok []
          | .interrupted => (collect refusal deadline (turn + 1) room clock later).result
          | _ => .error (.io reason)
      | .data bytes delay :: later =>
          if bytes = [] then .ok []
          else if bytes.length ≤ room then
            (collect refusal deadline (turn + 1) (room - bytes.length) (clock.pass delay)
              later).result.map (bytes ++ ·)
          else .ok (bytes.take room) := by
  have inTime : ¬ deadline ≤ clock.now := Nat.not_le.mpr early
  rw [collect]
  simp only [look_of_steady steady, if_neg hungry, if_neg inTime, certain]
  cases arrivals with
  | nil => rfl
  | cons arrival later =>
      cases arrival with
      | data bytes delay =>
          by_cases nothing : bytes = []
          · simp only [if_pos nothing]
            rfl
          · by_cases fits : bytes.length ≤ room
            · simp only [if_neg nothing, if_pos fits]
              rfl
            · simp only [if_neg nothing, if_neg fits]
              simp [Window.doing, Window.after, stop, Except.map]
      | failure kind reason => cases kind <;> rfl

/-- Late octets are kept as far as there is room, and no read follows them. -/
theorem collect_of_late {bytes : Bytes} {delay : Nat}
    (certain : ∀ attempt, refusal attempt = none) (steady : clock.lapses = [])
    (early : clock.now < deadline) (hungry : room ≠ 0) (nonempty : bytes ≠ [])
    (late : deadline - clock.now ≤ delay) :
    (collect refusal deadline turn room clock (.data bytes delay :: arrivals)).result =
      .ok (bytes.take room) := by
  have steadyAfter : (clock.pass delay).lapses = [] := steady
  have elapsed : deadline ≤ (clock.pass delay).now := by
    simp only [Clock.pass]
    omega
  rw [collect_of_open certain steady early hungry]
  by_cases fits : bytes.length ≤ room
  · simp only [if_neg nonempty, if_pos fits, collect_of_elapsed steadyAfter elapsed]
    simp [Except.map, List.take_of_length_le fits]
  · simp only [if_neg nonempty, if_neg fits]

/-- The invariant of the loop: what is still to come is judged by the room and the time left. -/
theorem collect_result (certain : ∀ attempt, refusal attempt = none) (steady : clock.lapses = [])
    (early : clock.now < deadline) :
    (collect refusal deadline turn room clock arrivals).result =
      (stopper (deadline - clock.now) arrivals).outcome room
        (heard (deadline - clock.now) arrivals) := by
  induction arrivals generalizing turn room clock with
  | nil =>
      by_cases full : room = 0
      · subst full
        exact collect_of_full
      · rw [collect_of_open certain steady early full]
        simp [stopper, heard, Stopper.outcome]
  | cons arrival later inductionHypothesis =>
      by_cases full : room = 0
      · subst full
        rw [collect_of_full, Stopper.outcome_of_full _ (Nat.zero_le _), List.take_zero]
      · cases arrival with
        | failure kind reason =>
            have hungry : ([] : Bytes).length < room := Nat.pos_of_ne_zero full
            rw [collect_of_open certain steady early full]
            cases kind with
            | timedOut => simp [stopper, heard, Stopper.outcome]
            | interrupted => exact inductionHypothesis steady early
            | _ => exact (if_pos hungry).symm
        | data bytes delay =>
            by_cases nothing : bytes = []
            · rw [collect_of_open certain steady early full]
              simp [stopper, heard, Stopper.outcome, nothing]
            · by_cases late : deadline - clock.now ≤ delay
              · rw [collect_of_late certain steady early full nothing late, stopper,
                  if_neg nothing, if_pos late, heard, if_pos (.inr late)]
                rfl
              · -- In time: the loop goes on with less room and less time.
                have steadyAfter : (clock.pass delay).lapses = [] := steady
                have inTime : (clock.pass delay).now < deadline := by
                  simp only [Clock.pass]
                  omega
                have left : deadline - clock.now - delay = deadline - (clock.pass delay).now := by
                  simp only [Clock.pass]
                  omega
                have goesOn : ¬ (bytes = [] ∨ deadline - clock.now ≤ delay) :=
                  not_or.mpr ⟨nothing, late⟩
                rw [collect_of_open certain steady early full, stopper, if_neg nothing,
                  if_neg late, heard, if_neg goesOn, left]
                by_cases fits : bytes.length ≤ room
                · simp only [if_neg nothing, if_pos fits]
                  rw [Stopper.outcome_append _ fits, inductionHypothesis steadyAfter inTime]
                · have filled : room ≤ (bytes ++ heard (deadline - (clock.pass delay).now)
                      later).length := by
                    rw [List.length_append]
                    omega
                  simp only [if_neg nothing, if_neg fits]
                  rw [Stopper.outcome_of_full _ filled, List.take_append_of_le_length (by omega)]

end Collect

theorem readWindow_result {line : Line} {limit window : Nat} (timed : 0 < window)
    (steady : line.clock.lapses = []) :
    (line.readWindow limit window).result =
      (stopper window line.arrivals).outcome limit (heard window line.arrivals) := by
  have looked : line.clock.look = line.clock := look_of_steady steady
  have early : line.clock.now < line.clock.now + window := Nat.lt_add_of_pos_right timed
  rw [readWindow, looked, collect_result (fun _ => rfl) steady early, Nat.add_sub_cancel_left]

/-- A window fails where a failure stops it with room left, and else returns what it heard, as much
as it wants; so lines that bring the same octets before the same end are read alike. -/
theorem readWindow_independent_of_chunks (line : Line) (limit window : Nat) (timed : 0 < window)
    (steady : line.clock.lapses = []) :
    let octets := heard window line.arrivals
    let stopped := stopper window line.arrivals
    let result := (line.readWindow limit window).result
    (∀ cause, result = .error cause ↔
      ∃ reason, stopped = .failure reason ∧ octets.length < limit ∧ cause = .io reason) ∧
    (result = .ok (octets.take limit) ↔
      ¬ ∃ reason, stopped = .failure reason ∧ octets.length < limit) ∧
    ∀ other : Line, other.clock.lapses = [] → heard window other.arrivals = octets →
      stopper window other.arrivals = stopped →
      (other.readWindow limit window).result = result := by
  intro octets stopped result
  have judged : result = stopped.outcome limit octets := readWindow_result timed steady
  refine ⟨?_, ?_, ?_⟩
  · intro cause
    rw [judged]
    exact Stopper.outcome_eq_error_iff
  · rw [judged]
    exact Stopper.outcome_eq_ok_iff
  · intro other otherSteady sameOctets sameStopper
    rw [readWindow_result timed otherSteady, sameOctets, sameStopper, judged]

/-- A failing read behind octets that just fill the window, once in three pieces with a disturbed
read between them and once in one. -/
theorem readWindow_independent_of_chunks_full :
    let line : Line :=
      { arrivals :=
          [.data [0x24] 0, .failure .interrupted "again", .data [0x4F, 0x4B] 0,
            .failure .brokenPipe "gone"] }
    let other : Line := { arrivals := [.data [0x24, 0x4F, 0x4B] 0, .failure .other "gone"] }
    (line.readWindow 3 200).result = .ok [0x24, 0x4F, 0x4B] ∧
      (other.readWindow 3 200).result = (line.readWindow 3 200).result ∧
      (line.readWindow 4 200).result = .error (.io "gone") := by
  intro line other
  have filled := readWindow_independent_of_chunks line 3 200 (by decide) rfl
  have unfilled := readWindow_independent_of_chunks line 4 200 (by decide) rfl
  refine ⟨filled.2.1.mpr ?_, filled.2.2 other rfl rfl rfl, (unfilled.1 _).mpr ?_⟩
  · rintro ⟨reason, -, short⟩
    exact absurd short (by decide)
  · exact ⟨"gone", rfl, by decide, rfl⟩

end Line

end BaudSwitch
