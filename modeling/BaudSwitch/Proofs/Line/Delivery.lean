import BaudSwitch.Proofs.Line.Conservation
import Mathlib.Algebra.GroupWithZero.Nat

/-!
# Replies that arrive in time

A reply comes in chunks of any size, or not at all, and any read on the way may be disturbed.  If
it is there before the window is over, one window takes all of it and leaves nothing behind.
-/

namespace BaudSwitch

/-- The milliseconds until an arrival is there. -/
def Arrival.delay : Arrival → Nat
  | .data _ delay => delay
  | _ => 0

/-- A read that can be tried again. -/
def Arrival.Disturbed : Arrival → Prop
  | .data .. => False
  | .failure kind _ => kind = .interrupted

instance (arrival : Arrival) : Decidable arrival.Disturbed :=
  match arrival with
  | .data .. => inferInstanceAs (Decidable False)
  | .failure kind _ => inferInstanceAs (Decidable (kind = .interrupted))

/-- Octets in chunks, none of them empty. Reads may be disturbed before each chunk. -/
inductive Chunked : Bytes → List Arrival → Prop where
  | last {chunk : Bytes} (filled : chunk ≠ []) (delay : Nat) :
      Chunked chunk [.data chunk delay]
  | chunk {chunk rest : Bytes} {arrivals : List Arrival} (filled : chunk ≠ []) (delay : Nat)
      (later : Chunked rest arrivals) : Chunked (chunk ++ rest) (.data chunk delay :: arrivals)
  | disturbed {bytes : Bytes} {arrivals : List Arrival} (reason : String)
      (later : Chunked bytes arrivals) : Chunked bytes (.failure .interrupted reason :: arrivals)

theorem Chunked.ne_nil {bytes : Bytes} {arrivals : List Arrival}
    (chunked : Chunked bytes arrivals) : bytes ≠ [] := by
  induction chunked with
  | last filled delay => exact filled
  | chunk filled delay later inductionHypothesis => exact List.append_ne_nil_of_left_ne_nil filled _
  | disturbed reason later inductionHypothesis => exact inductionHypothesis

/-- Nothing comes; reads may be disturbed all the same. -/
def Silent (arrivals : List Arrival) : Prop :=
  ∀ arrival ∈ arrivals, arrival.Disturbed

/-- All of this is there before the time is up, on a clock that lapses like this. -/
def InTime (time : Nat) (lapses : List Nat) (arrivals : List Arrival) : Prop :=
  (lapses.take arrivals.length).sum + (arrivals.map Arrival.delay).sum < time

instance (arrivals : List Arrival) : Decidable (Silent arrivals) :=
  inferInstanceAs (Decidable (∀ arrival ∈ arrivals, arrival.Disturbed))

instance (time : Nat) (lapses : List Nat) (arrivals : List Arrival) :
    Decidable (InTime time lapses arrivals) :=
  inferInstanceAs (Decidable (_ < _))

/-- The replies to come, each with what arrives of it: nothing, or just as many octets as a window
takes. The lapses are those that are left when the next window is read: the first passes before it
begins, one more before each of its reads, and silence takes a read that meets nothing. -/
inductive Promised (limit window : Nat) : List Nat → List Bytes → List (List Arrival) → Prop where
  | none (lapses : List Nat) : Promised limit window lapses [] []
  | silence {lapses : List Nat} {replies : List Bytes} {arrivals : List Arrival}
      {later : List (List Arrival)} (silent : Silent arrivals)
      (inTime : InTime window (lapses.drop 1) arrivals)
      (rest : Promised limit window (lapses.drop (arrivals.length + 2)) replies later) :
      Promised limit window lapses ([] :: replies) (arrivals :: later)
  | reply {lapses : List Nat} {reply : Bytes} {replies : List Bytes} {arrivals : List Arrival}
      {later : List (List Arrival)} (whole : reply.length = limit)
      (chunked : Chunked reply arrivals) (inTime : InTime window (lapses.drop 1) arrivals)
      (rest : Promised limit window (lapses.drop (arrivals.length + 1)) replies later) :
      Promised limit window lapses (reply :: replies) (arrivals :: later)

namespace Clock

theorem now_look (clock : Clock) : clock.look.now = clock.now + (clock.lapses.take 1).sum := by
  rcases clock with ⟨now, _ | ⟨lapse, later⟩⟩ <;> simp [look]

theorem lapses_look (clock : Clock) : clock.look.lapses = clock.lapses.drop 1 := by
  rcases clock with ⟨now, _ | ⟨lapse, later⟩⟩ <;> rfl

end Clock

/-! ## What is in time -/

section InTime

variable {time : Nat} {lapses : List Nat} {arrival : Arrival} {later : List Arrival}

theorem inTime_cons_iff :
    InTime time lapses (arrival :: later) ↔
      InTime (time - ((lapses.take 1).sum + arrival.delay)) (lapses.drop 1) later := by
  have split : (lapses.take (later.length + 1)).sum =
      (lapses.take 1).sum + ((lapses.drop 1).take later.length).sum := by
    rw [Nat.add_comm, List.take_add, List.sum_append]
  simp only [InTime, List.length_cons, List.map_cons, List.sum_cons, split]
  omega

theorem lt_of_inTime_cons (inTime : InTime time lapses (arrival :: later)) :
    (lapses.take 1).sum + arrival.delay < time := by
  have rest := inTime_cons_iff.mp inTime
  simp only [InTime] at rest
  omega

end InTime

/-! ## One window -/

/-- The window returns these octets, leaves nothing that arrived, and these lapses. -/
structure Window.Exhausts (window : Window) (bytes : Bytes) (lapses : List Nat) : Prop where
  result : window.result = .ok bytes
  arrivals : window.line.arrivals = []
  lapses : window.line.clock.lapses = lapses

namespace Window.Exhausts

variable {window : Window} {bytes : Bytes} {lapses : List Nat}

theorem doing (exhausts : window.Exhausts bytes lapses) (acts : List Line.Act) :
    (window.doing acts).Exhausts bytes lapses :=
  ⟨exhausts.result, exhausts.arrivals, exhausts.lapses⟩

theorem after (exhausts : window.Exhausts bytes lapses) (earlier : Bytes) :
    (window.after earlier).Exhausts (earlier ++ bytes) lapses :=
  ⟨result_after_eq_ok_iff.mpr ⟨bytes, exhausts.result, rfl⟩, exhausts.arrivals, exhausts.lapses⟩

end Window.Exhausts

namespace Line

section Collect

variable {deadline turn room : Nat} {clock : Clock} {arrivals later : List Arrival}
  {bytes chunk rest : Bytes} {lapses : List Nat}

theorem collect_exhausts_full :
    (collect (fun _ => none) deadline turn 0 clock []).Exhausts [] clock.lapses := by
  rw [collect, if_pos rfl]
  exact ⟨rfl, rfl, rfl⟩

/-- Where nothing is left to arrive, one more look at the clock ends the window, in time or not. -/
theorem collect_exhausts_nil (hungry : room ≠ 0) :
    (collect (fun _ => none) deadline turn room clock []).Exhausts [] (clock.lapses.drop 1) := by
  rw [collect, if_neg hungry, ← clock.lapses_look]
  by_cases elapsed : deadline ≤ clock.look.now
  · simp only [if_pos elapsed]
    exact ⟨rfl, rfl, rfl⟩
  · simp only [if_neg elapsed]
    exact ⟨rfl, rfl, rfl⟩

theorem collect_exhausts_disturbed (reason : String) (hungry : room ≠ 0)
    (early : clock.look.now < deadline)
    (onward : (collect (fun _ => none) deadline (turn + 1) room clock.look later).Exhausts bytes
      lapses) :
    (collect (fun _ => none) deadline turn room clock
      (.failure .interrupted reason :: later)).Exhausts bytes lapses := by
  rw [collect, if_neg hungry]
  simp only [if_neg (Nat.not_le.mpr early)]
  exact onward.doing _

theorem collect_exhausts_chunk {delay : Nat} (filled : chunk ≠ [])
    (early : clock.look.now < deadline)
    (onward : (collect (fun _ => none) deadline (turn + 1) room (clock.look.pass delay)
      later).Exhausts rest lapses) :
    (collect (fun _ => none) deadline turn (chunk.length + room) clock
      (.data chunk delay :: later)).Exhausts (chunk ++ rest) lapses := by
  have hungry : chunk.length + room ≠ 0 := by simp [filled]
  rw [collect, if_neg hungry]
  simp only [if_neg (Nat.not_le.mpr early), if_neg filled, if_pos (Nat.le_add_right _ _),
    Nat.add_sub_cancel_left]
  exact (onward.after chunk).doing _

/-- The next read is in time, and what follows it is in time on the clock behind that read. -/
theorem inTime_look {arrival : Arrival}
    (inTime : InTime (deadline - clock.now) clock.lapses (arrival :: later)) :
    clock.look.now < deadline ∧
      InTime (deadline - (clock.look.pass arrival.delay).now) clock.look.lapses later := by
  have before := lt_of_inTime_cons inTime
  have after := inTime_cons_iff.mp inTime
  rw [Nat.sub_sub, ← Nat.add_assoc, ← clock.now_look, ← clock.lapses_look] at after
  refine ⟨?_, after⟩
  rw [clock.now_look]
  omega

/-- A reply that is there in time is collected to its end. -/
theorem collect_chunked (chunked : Chunked bytes arrivals)
    (inTime : InTime (deadline - clock.now) clock.lapses arrivals) :
    (collect (fun _ => none) deadline turn bytes.length clock arrivals).Exhausts bytes
      (clock.lapses.drop arrivals.length) := by
  induction chunked generalizing turn clock with
  | @last chunk filled delay =>
      obtain ⟨early, -⟩ := inTime_look inTime
      have onward : (collect (fun _ => none) deadline (turn + 1) 0 (clock.look.pass delay)
          []).Exhausts [] (clock.lapses.drop 1) := by
        rw [← clock.lapses_look]
        exact collect_exhausts_full
      have whole := collect_exhausts_chunk filled early onward
      rw [List.append_nil] at whole
      exact whole
  | @chunk chunk rest arrivals filled delay chunked inductionHypothesis =>
      obtain ⟨early, after⟩ := inTime_look inTime
      rw [List.length_append, List.length_cons, Nat.add_comm arrivals.length, ← List.drop_drop,
        ← clock.lapses_look]
      exact collect_exhausts_chunk filled early (inductionHypothesis after)
  | @disturbed bytes arrivals reason chunked inductionHypothesis =>
      obtain ⟨early, after⟩ := inTime_look inTime
      rw [List.length_cons, Nat.add_comm arrivals.length, ← List.drop_drop, ← clock.lapses_look]
      exact collect_exhausts_disturbed reason (by simpa using chunked.ne_nil) early
        (inductionHypothesis after)

/-- Disturbed reads alone bring nothing; the window ends at the read behind them. -/
theorem collect_silent (hungry : room ≠ 0) (silent : Silent arrivals)
    (inTime : InTime (deadline - clock.now) clock.lapses arrivals) :
    (collect (fun _ => none) deadline turn room clock arrivals).Exhausts []
      (clock.lapses.drop (arrivals.length + 1)) := by
  induction arrivals generalizing turn clock with
  | nil => exact collect_exhausts_nil hungry
  | cons arrival later inductionHypothesis =>
      obtain ⟨early, after⟩ := inTime_look inTime
      obtain ⟨disturbed, silentLater⟩ := List.forall_mem_cons.mp silent
      rw [List.length_cons, Nat.add_comm (later.length + 1), ← List.drop_drop,
        ← clock.lapses_look]
      cases arrival with
      | data => cases disturbed
      | failure kind reason =>
          cases disturbed
          exact collect_exhausts_disturbed reason hungry early
            (inductionHypothesis silentLater after)

end Collect

/-! ## Windows in turn -/

section Windows

variable {line : Line} {limit window : Nat} {reply : Bytes} {replies : List Bytes}
  {later : List (List Arrival)}

theorem inTime_begun (inTime : InTime window (line.clock.lapses.drop 1) line.arrivals) :
    InTime (line.clock.look.now + window - line.clock.look.now) line.clock.look.lapses
      line.arrivals := by
  rw [Nat.add_sub_cancel_left, line.clock.lapses_look]
  exact inTime

/-- A window returns the reply that was promised for it, and the next window meets no rest of
it. -/
theorem readWindow_promised (limited : limit ≠ 0)
    (promised : Promised limit window line.clock.lapses (reply :: replies)
      (line.arrivals :: later)) :
    let read := line.readWindow limit window
    reply.length ≤ limit ∧ read.result = .ok reply ∧ read.line.arrivals = [] ∧
      Promised limit window read.line.clock.lapses replies later := by
  intro read
  cases promised with
  | silence silent inTime rest =>
      have exhausts : read.Exhausts [] _ := collect_silent limited silent (inTime_begun inTime)
      rw [line.clock.lapses_look, List.drop_drop, Nat.add_comm 1] at exhausts
      refine ⟨Nat.zero_le _, exhausts.result, exhausts.arrivals, ?_⟩
      rw [exhausts.lapses]
      exact rest
  | reply whole chunked inTime rest =>
      subst whole
      have exhausts : read.Exhausts reply _ := collect_chunked chunked (inTime_begun inTime)
      rw [line.clock.lapses_look, List.drop_drop, Nat.add_comm 1] at exhausts
      refine ⟨Nat.le_refl _, exhausts.result, exhausts.arrivals, ?_⟩
      rw [exhausts.lapses]
      exact rest

end Windows

end Line

end BaudSwitch
