import BaudSwitch.Proofs.Handshake.FailStop
import BaudSwitch.Proofs.Handshake.Reprogramming

/-!
# Who holds the port

A session is held from a successful opening to the next close, also one that fails.  The port is
never opened while a session is held; and only a close that fails at the last query leaves a
handshake without the session it needs, for good.
-/

namespace BaudSwitch

/-! ## Holding the port, read off a history -/

/-- The rate the port is held at behind these exchanges, if it was held at `rate` before them. -/
def heldAfter (rate : Option UInt32) : List Exchange → Option UInt32
  | [] => rate
  | (.connect _ baud _, .ok _) :: rest => heldAfter (some baud) rest
  | (.close, _) :: rest => heldAfter none rest
  | _ :: rest => heldAfter rate rest

/-- No exchange tries to open the port while it is held. -/
def OpensFree (rate : Option UInt32) : List Exchange → Prop
  | [] => True
  | exchange :: rest =>
      (exchange.1.kind = .connect → rate = none) ∧ OpensFree (heldAfter rate [exchange]) rest

/-- Every opening that succeeded was followed by a close, successful or not. -/
def Released (history : List Exchange) : Prop :=
  ∀ earlier port baud window echo later,
    history = earlier ++ (.connect port baud window, .ok echo) :: later →
    ∃ answer, (.close, answer) ∈ later

section History

variable {rate : Option UInt32} {first second exchanges history : List Exchange}

theorem heldAfter_cons (exchange : Exchange) (rest : List Exchange) :
    heldAfter rate (exchange :: rest) = heldAfter (heldAfter rate [exchange]) rest := by
  rcases exchange with ⟨_ | _ | _ | _, _ | _⟩ <;> rfl

theorem heldAfter_append :
    heldAfter rate (first ++ second) = heldAfter (heldAfter rate first) second := by
  induction first generalizing rate with
  | nil => rfl
  | cons exchange rest inductionHypothesis =>
      rw [List.cons_append, heldAfter_cons, inductionHypothesis, ← heldAfter_cons]

theorem opensFree_append :
    OpensFree rate (first ++ second) ↔
      OpensFree rate first ∧ OpensFree (heldAfter rate first) second := by
  induction first generalizing rate with
  | nil => simp [OpensFree, heldAfter]
  | cons exchange rest inductionHypothesis =>
      rw [List.cons_append, OpensFree, inductionHypothesis, OpensFree, ← heldAfter_cons, and_assoc]

theorem heldAfter_of_onLine {exchange : Exchange} (onLine : exchange.OnLine) :
    heldAfter rate [exchange] = rate := by
  rcases exchange with ⟨_ | _ | _ | _, _ | _⟩ <;> first | rfl | exact onLine.elim

theorem heldAfter_of_staysOpen (stays : StaysOpen exchanges) : heldAfter rate exchanges = rate := by
  induction exchanges with
  | nil => rfl
  | cons exchange rest inductionHypothesis =>
      obtain ⟨onLine, staysLater⟩ := (staysOpen_cons exchange rest).mp stays
      rw [heldAfter_cons, heldAfter_of_onLine onLine, inductionHypothesis staysLater]

theorem opensFree_of_staysOpen (stays : StaysOpen exchanges) : OpensFree rate exchanges := by
  induction exchanges with
  | nil => trivial
  | cons exchange rest inductionHypothesis =>
      obtain ⟨onLine, staysLater⟩ := (staysOpen_cons exchange rest).mp stays
      refine ⟨?_, ?_⟩
      · intro opening
        rcases exchange with ⟨_ | _ | _ | _, _⟩
        · exact onLine.elim
        all_goals cases opening
      · rw [heldAfter_of_onLine onLine]
        exact inductionHypothesis staysLater

theorem exists_close_of_heldAfter_eq_none {held : UInt32}
    (vacant : heldAfter (some held) exchanges = none) : ∃ answer, (.close, answer) ∈ exchanges := by
  induction exchanges generalizing held with
  | nil => cases vacant
  | cons exchange rest inductionHypothesis =>
      by_cases closing : ∃ answer, exchange = (.close, answer)
      · obtain ⟨answer, rfl⟩ := closing
        exact ⟨answer, List.mem_cons_self⟩
      · -- Anything but a close leaves the port held, perhaps at another rate.
        have stillHeld : ∃ other, heldAfter (some held) [exchange] = some other := by
          rcases exchange with ⟨_ | _ | _ | _, _ | _⟩
          all_goals first | exact ⟨_, rfl⟩ | exact absurd ⟨_, rfl⟩ closing
        obtain ⟨other, same⟩ := stillHeld
        rw [heldAfter_cons, same] at vacant
        obtain ⟨answer, membership⟩ := inductionHypothesis vacant
        exact ⟨answer, List.mem_cons_of_mem exchange membership⟩

theorem exists_opening_of_heldAfter {held : UInt32}
    (occupied : heldAfter rate exchanges = some held) :
    (rate = some held ∧ ∀ answer, (.close, answer) ∉ exchanges) ∨
      ∃ earlier port window echo later,
        exchanges = earlier ++ (.connect port held window, .ok echo) :: later ∧
        ∀ answer, (.close, answer) ∉ later := by
  induction exchanges generalizing rate with
  | nil => exact .inl ⟨occupied, fun _ => List.not_mem_nil⟩
  | cons exchange rest inductionHypothesis =>
      rw [heldAfter_cons] at occupied
      rcases inductionHypothesis occupied with
        ⟨before, unclosed⟩ | ⟨earlier, port, window, echo, later, rfl, unclosed⟩
      · rcases exchange with ⟨⟨port, baud, window⟩ | _ | _ | _, cause | echo⟩
        case connect.ok =>
          cases before
          exact .inr ⟨[], port, window, echo, rest, rfl, unclosed⟩
        case close.error => cases before
        case close.ok => cases before
        all_goals
          exact .inl ⟨before, fun answer membership => unclosed answer (by simpa using membership)⟩
      · exact .inr ⟨exchange :: earlier, port, window, echo, later, rfl, unclosed⟩

theorem heldAfter_eq_none_iff : heldAfter none history = none ↔ Released history := by
  constructor
  · intro vacant earlier port baud window echo later split
    rw [split, heldAfter_append] at vacant
    exact exists_close_of_heldAfter_eq_none vacant
  · intro released
    cases occupied : heldAfter none history with
    | none => rfl
    | some held =>
        rcases exists_opening_of_heldAfter occupied with
          ⟨before, -⟩ | ⟨earlier, port, window, echo, later, split, unclosed⟩
        · cases before
        · obtain ⟨answer, closed⟩ := released earlier port held window echo later split
          exact absurd closed (unclosed answer)

theorem released_of_opensFree {earlier later : List Exchange} {call : Call} {answer : Answer}
    (free : OpensFree none (earlier ++ (call, answer) :: later)) (opening : call.kind = .connect) :
    Released earlier := by
  rw [opensFree_append] at free
  exact heldAfter_eq_none_iff.mp (free.2.1 opening)

end History

namespace Handshake

/-- The rate of the session in hand. -/
def rate (handshake : Handshake) : Option UInt32 :=
  handshake.session.map Session.baud

variable {handshake after : Handshake} {session : Session}
  {exchanges earlier later history : List Exchange}

theorem rate_of_held (held : handshake.session = some session) :
    handshake.rate = some session.baud := by
  rw [rate, held]
  rfl

theorem rate_holding {last : Session} (held : handshake.session = some session)
    (same : last.baud = session.baud) : (handshake.holding last).rate = handshake.rate := by
  rw [rate_of_held held, ← same]
  rfl

theorem rate_eq_none_iff : handshake.rate = none ↔ handshake.session = none :=
  Option.map_eq_none_iff

/-! ## What the stages do to the session in hand -/

/-- The exchanges account for who holds the port before and after them. -/
structure Occupies (handshake : Handshake) (exchanges : List Exchange) (after : Handshake) :
    Prop where
  free : OpensFree handshake.rate exchanges
  rate : after.rate = heldAfter handshake.rate exchanges

theorem Occupies.trans {middle : Handshake} (first : handshake.Occupies earlier middle)
    (second : middle.Occupies later after) : handshake.Occupies (earlier ++ later) after where
  free := by
    rw [opensFree_append, ← first.rate]
    exact ⟨first.free, second.free⟩
  rate := by
    rw [second.rate, first.rate, heldAfter_append]

theorem occupies_of_staysOpen (stays : StaysOpen exchanges) (same : after.rate = handshake.rate) :
    handshake.Occupies exchanges after where
  free := opensFree_of_staysOpen stays
  rate := by rw [same, heldAfter_of_staysOpen stays]

theorem occupies_closed {answer : Answer} (absent : after.session = none) :
    handshake.Occupies [(.close, answer)] after where
  free := ⟨fun opening => Call.Kind.noConfusion opening, trivial⟩
  rate := rate_eq_none_iff.mpr absent

section Courses

variable {result : Except HandshakeError Stage}

theorem Opens.occupies {baud : UInt32} {next : Stage} (absent : handshake.session = none)
    (course : handshake.Opens baud next exchanges result after) :
    handshake.Occupies exchanges after := by
  have vacant := rate_eq_none_iff.mpr absent
  cases course with
  | refused cause => exact ⟨⟨fun _ => vacant, trivial⟩, rfl⟩
  | opened echo => exact ⟨⟨fun _ => vacant, trivial⟩, rfl⟩

theorem Probes.rate_eq (course : handshake.Probes exchanges result after) :
    after.rate = handshake.rate := by
  cases course with
  | notOpen => rfl
  | failed held asked => exact rate_holding held asked.grows.baud
  | unacknowledged held asked => exact rate_holding held asked.grows.baud
  | probed held asked => exact rate_holding held asked.grows.baud

theorem Switches.rate_eq (course : handshake.Switches exchanges result after) :
    after.rate = handshake.rate := by
  cases course with
  | notOpen => rfl
  | failed held asked => exact rate_holding held asked.grows.baud
  | silent held asked => exact rate_holding held asked.grows.baud
  | unacknowledged held asked => exact rate_holding held asked.grows.baud
  | outOfRange held asked => exact rate_holding held asked.grows.baud
  | untold held asked _ _ _ told =>
      exact rate_holding held (told.grows.baud.trans asked.grows.baud)
  | switched held asked _ _ _ told =>
      exact rate_holding held (told.grows.baud.trans asked.grows.baud)

/-- A change of rate begins with a close unless nothing is held, and opens the port only once
nothing is. -/
theorem Reopens.occupies (course : handshake.Reopens exchanges result after) :
    handshake.Occupies exchanges after := by
  cases course with
  | unclosed closing =>
      cases closing with
      | failed held cause => exact occupies_closed rfl
  | closed closing opening =>
      cases closing with
      | absent absent => exact opening.occupies absent
      | @closed session held echo =>
          have closed : handshake.Occupies [(.close, .ok echo)] (handshake.tookOver session) :=
            occupies_closed rfl
          exact closed.trans (opening.occupies rfl)

/-- Without a session the last query makes no call. -/
theorem Confirms.of_absent (absent : handshake.session = none)
    (course : handshake.Confirms exchanges result after) :
    exchanges = [] ∧ result = .error .notOpen ∧ after = handshake := by
  cases course with
  | notOpen => exact ⟨rfl, rfl, rfl⟩
  | ungreeted held => cases absent.symm.trans held
  | failed held => cases absent.symm.trans held
  | silentUnclosed held => cases absent.symm.trans held
  | silent held => cases absent.symm.trans held
  | unacknowledged held => cases absent.symm.trans held
  | answeredUnclosed held => cases absent.symm.trans held
  | confirmed held => cases absent.symm.trans held

/-- The last query either fails on the open port or ends with a close, whose failure is its own
and without which it does not succeed. -/
theorem Confirms.ends (present : handshake.session ≠ none)
    (course : handshake.Confirms exchanges result after) :
    (StaysOpen exchanges ∧ after.rate = handshake.rate ∧
      ∃ cause, result = .error (.port cause)) ∨
    ∃ speaking answer, exchanges = speaking ++ [(.close, answer)] ∧ StaysOpen speaking ∧
      after.session = none ∧
      ((∃ cause, answer = .error cause ∧ result = .error (.port cause)) ∨
        ∃ echo outcome, answer = .ok echo ∧ result = .ok (.done outcome)) := by
  cases course with
  | notOpen absent => exact absurd absent present
  | ungreeted held cause => exact .inl ⟨by simp, rfl, cause, rfl⟩
  | @failed _ _ _ cause held echo asked =>
      have stays := requests_staysOpen asked
      exact .inl ⟨by simp [stays], rate_holding held asked.grows.baud, cause, rfl⟩
  | unacknowledged held echo asked answered cause =>
      have stays := requests_staysOpen asked
      exact .inl ⟨by simp [stays], rate_holding held asked.grows.baud, cause, rfl⟩
  | silentUnclosed held echo asked cause =>
      refine .inr ⟨_, .error cause, rfl, ?_, rfl, .inl ⟨cause, rfl, rfl⟩⟩
      simp [requests_staysOpen asked]
  | silent held echo asked farewell =>
      refine .inr ⟨_, .ok farewell, rfl, ?_, rfl, .inr ⟨farewell, _, rfl, rfl⟩⟩
      simp [requests_staysOpen asked]
  | answeredUnclosed held echo asked answered again cause =>
      refine .inr ⟨_, .error cause, List.append_cons _ _ _, ?_, rfl, .inl ⟨cause, rfl, rfl⟩⟩
      simp [requests_staysOpen asked]
  | confirmed held echo asked answered again farewell =>
      refine .inr ⟨_, .ok farewell, List.append_cons _ _ _, ?_, rfl, .inr ⟨farewell, _, rfl, rfl⟩⟩
      simp [requests_staysOpen asked]

theorem Confirms.occupies (course : handshake.Confirms exchanges result after) :
    handshake.Occupies exchanges after := by
  by_cases absent : handshake.session = none
  · obtain ⟨rfl, -, rfl⟩ := course.of_absent absent
    exact occupies_of_staysOpen staysOpen_nil rfl
  · rcases course.ends absent with ⟨stays, same, -⟩ | ⟨speaking, answer, rfl, stays, gone, -⟩
    · exact occupies_of_staysOpen stays same
    · have spoken : handshake.Occupies speaking handshake := occupies_of_staysOpen stays rfl
      exact spoken.trans (occupies_closed gone)

theorem Pursues.occupies {stage : Stage} (unopened : stage = .openOld → handshake.session = none)
    (course : handshake.Pursues stage exchanges result after) :
    handshake.Occupies exchanges after := by
  cases stage with
  | openOld => exact Opens.occupies (unopened rfl) course
  | probe => exact occupies_of_staysOpen (Probes.staysOpen course) (Probes.rate_eq course)
  | querySupportedOld =>
      exact occupies_of_staysOpen (Switches.staysOpen course) (Switches.rate_eq course)
  | reopen => exact Reopens.occupies course
  | querySupportedNew => exact Confirms.occupies course
  | done outcome =>
      obtain ⟨rfl, -, rfl⟩ := course
      exact occupies_of_staysOpen staysOpen_nil rfl

theorem Moves.occupies (unopened : handshake.Unopened)
    (move : handshake.Moves exchanges result after) : handshake.Occupies exchanges after := by
  cases move with
  | failed course => exact course.occupies unopened
  | advanced course => exact ⟨(course.occupies unopened).free, (course.occupies unopened).rate⟩

end Courses

/-! ## What each stage may count on -/

/-- The session went with a close that failed, and the stage that needs it will not open another. -/
def Stranded (handshake : Handshake) : Prop :=
  handshake.stage = .querySupportedNew ∧ handshake.session = none

/-- Who holds the port at each stage. -/
def Owns (handshake : Handshake) : Prop :=
  match handshake.stage with
  | .openOld | .done _ => handshake.rate = none
  | .probe | .querySupportedOld => handshake.rate = some handshake.settings.line.initialBaud
  | .reopen => True
  | .querySupportedNew =>
      handshake.rate = some handshake.settings.line.targetBaud ∨ handshake.rate = none

/-- A close fails among these exchanges. -/
def FailsToClose (exchanges : List Exchange) : Prop :=
  ∃ cause, (.close, .error cause) ∈ exchanges

theorem owns_new (settings : Settings) : ({ settings } : Handshake).Owns := rfl

theorem close_notMem_of_staysOpen (stays : StaysOpen exchanges) (answer : Answer) :
    (.close, answer) ∉ exchanges :=
  fun membership => stays _ membership

section Steps

variable {result : Except HandshakeError Stage}

theorem Moves.owns (configured : handshake.Configured) (unopened : handshake.Unopened)
    (owns : handshake.Owns) (move : handshake.Moves exchanges result after) : after.Owns := by
  have sameSettings := (move.keeps configured unopened).settings
  unfold Owns at owns
  cases move with
  | failed course =>
      have sameStage := course.stage
      unfold Owns
      rw [sameStage, sameSettings]
      cases stage : handshake.stage <;> rw [stage] at course owns <;> dsimp only at owns ⊢
      case openOld =>
        cases course with
        | refused cause => exact owns
      case probe => rw [Probes.rate_eq course, owns]
      case querySupportedOld => rw [Switches.rate_eq course, owns]
      case querySupportedNew =>
        by_cases absent : handshake.session = none
        · obtain ⟨-, -, rfl⟩ := Confirms.of_absent absent course
          exact .inr (rate_eq_none_iff.mpr absent)
        · rcases Confirms.ends absent course with ⟨-, same, -⟩ | ⟨-, -, -, -, gone, -⟩
          · rw [same]
            exact owns
          · exact .inr (rate_eq_none_iff.mpr gone)
      case done outcome => cases course.2.1
  | advanced course =>
      cases stage : handshake.stage <;> rw [stage] at course owns <;> dsimp only at owns
      case openOld =>
        cases course with
        | opened echo => rfl
      case probe =>
        have same := Probes.rate_eq course
        cases course with
        | probed held asked echo => exact same.trans owns
      case querySupportedOld => cases course <;> trivial
      case reopen =>
        cases course with
        | closed closing opening =>
            cases opening with
            | opened echo => cases closing <;> exact .inl rfl
      case querySupportedNew => cases course <;> rfl
      case done outcome =>
        obtain ⟨-, same, rfl⟩ := course
        cases same
        exact owns

theorem Moves.of_stranded (stranded : handshake.Stranded)
    (move : handshake.Moves exchanges result after) :
    exchanges = [] ∧ result = .error .notOpen ∧ after = handshake := by
  obtain ⟨stage, absent⟩ := stranded
  cases move with
  | failed course =>
      rw [stage] at course
      exact Confirms.of_absent absent course
  | advanced course =>
      rw [stage] at course
      cases (Confirms.of_absent absent course).2.1

/-- A step is told that no port is open only where the session is gone for good. -/
theorem Moves.notOpen_iff (owns : handshake.Owns) (move : handshake.Moves exchanges result after) :
    result = .error .notOpen ↔ handshake.Stranded := by
  constructor
  · rintro rfl
    apply Classical.byContradiction
    intro held
    have ready : handshake.Ready := by
      intro speaking absent
      have vacant := rate_eq_none_iff.mpr absent
      unfold Owns at owns
      rcases speaking with stage | stage | stage <;> rw [stage] at owns <;> dsimp only at owns
      · cases vacant.symm.trans owns
      · cases vacant.symm.trans owns
      · exact held ⟨stage, absent⟩
    exact move.error_ne_notOpen ready rfl
  · intro stranded
    exact (move.of_stranded stranded).2.1

/-- A handshake loses its session for good in one way only. -/
theorem Moves.stranded_iff (move : handshake.Moves exchanges result after) :
    after.Stranded ↔
      handshake.Stranded ∨ handshake.stage = .querySupportedNew ∧ FailsToClose exchanges := by
  constructor
  · rintro ⟨stageAfter, gone⟩
    cases move with
    | failed course =>
        have stage := course.stage.symm.trans stageAfter
        rw [stage] at course
        by_cases absent : handshake.session = none
        · exact .inl ⟨stage, absent⟩
        · refine .inr ⟨stage, ?_⟩
          rcases Confirms.ends absent course with
            ⟨-, same, -⟩ | ⟨speaking, _, rfl, -, -, ⟨cause, rfl, -⟩ | ⟨_, _, -, succeeded⟩⟩
          · rw [rate_eq_none_iff.mpr gone] at same
            exact absurd (rate_eq_none_iff.mp same.symm) absent
          · exact ⟨cause, List.mem_append_right speaking (List.mem_singleton_self _)⟩
          · cases succeeded
    | @advanced next last course =>
        -- The stage is entered only with the session that was just opened.
        have next_eq : next = .querySupportedNew := stageAfter
        subst next_eq
        cases stage : handshake.stage <;> rw [stage] at course
        case reopen =>
          cases course with
          | closed closing opening =>
              cases opening with
              | opened echo => cases gone
        case done outcome => cases course.2.1
        all_goals cases course
  · rintro (stranded | ⟨stage, cause, failed⟩)
    · obtain ⟨-, -, rfl⟩ := move.of_stranded stranded
      exact stranded
    · by_cases absent : handshake.session = none
      · obtain ⟨-, -, rfl⟩ := move.of_stranded ⟨stage, absent⟩
        exact ⟨stage, absent⟩
      · cases move with
        | failed course =>
            have sameStage := course.stage.trans stage
            rw [stage] at course
            rcases Confirms.ends absent course with ⟨stays, -⟩ | ⟨_, _, -, -, gone, -⟩
            · exact absurd failed (close_notMem_of_staysOpen stays _)
            · exact ⟨sameStage, gone⟩
        | advanced course =>
            rw [stage] at course
            rcases Confirms.ends absent course with
              ⟨-, -, _, contradictory⟩ |
              ⟨speaking, _, rfl, stays, -, ⟨_, -, contradictory⟩ | ⟨_, _, rfl, -⟩⟩
            · cases contradictory
            · cases contradictory
            · rcases List.mem_append.mp failed with spoken | closed
              · exact absurd spoken (close_notMem_of_staysOpen stays _)
              · cases List.mem_singleton.mp closed

/-- A change of rate that fails leaves nothing held. -/
theorem Moves.of_failed_reopen {cause : HandshakeError} (stage : handshake.stage = .reopen)
    (move : handshake.Moves exchanges (.error cause) after) :
    after.stage = .reopen ∧ after.session = none := by
  cases move with
  | failed course =>
      refine ⟨course.stage.trans stage, ?_⟩
      rw [stage] at course
      cases course with
      | unclosed closing =>
          cases closing with
          | failed => rfl
      | closed closing opening =>
          cases opening with
          | refused cause =>
              cases closing with
              | absent absent => exact absent
              | closed => rfl

/-- With nothing held, a change of rate is one attempt to open the port. -/
theorem Moves.of_reopen (stage : handshake.stage = .reopen) (absent : handshake.session = none)
    (move : handshake.Moves exchanges result after) :
    ∃ answer, exchanges = [(handshake.opening handshake.settings.line.targetBaud, answer)] ∧
      result = (answer.mapError .port).map fun _ => .querySupportedNew := by
  obtain ⟨last, course⟩ := move.pursues
  rw [stage] at course
  cases course with
  | unclosed closing =>
      cases closing with
      | failed held => cases absent.symm.trans held
  | closed closing opening =>
      cases closing with
      | closed held => cases absent.symm.trans held
      | absent =>
          cases opening with
          | refused cause => exact ⟨.error cause, rfl, rfl⟩
          | opened echo => exact ⟨.ok echo, rfl, rfl⟩

end Steps

/-! ## Any number of steps -/

/-- The last of several attempts finds the handshake as those before it left it. -/
theorem attempts_succ (count : Nat) (handshake : Handshake) :
    attempts (count + 1) handshake =
      (attempts count handshake).bind fun tried =>
        (step tried.2).bind fun ended =>
          .done (tried.1 ++ [ended.1], ended.2) := by
  induction count generalizing handshake with
  | zero => rfl
  | succ count inductionHypothesis =>
      rw [attempts_step (count + 1), attempts_step count, Dialogue.bind_assoc]
      congr 1
      funext ended
      rw [inductionHypothesis]
      simp only [Dialogue.bind_assoc]
      rfl

section Histories

variable {Port : Type} [Answering Port] (settings : Settings) (port : Port)

/-- What has happened to a new handshake after so many steps, failed ones included. -/
def tried (count : Nat) : Run Port (List (Except HandshakeError Stage) × Handshake) :=
  Dialogue.run (attempts count { settings }) port

/-- The handshake after so many steps. -/
def handshakeAfter (count : Nat) : Handshake :=
  (tried settings port count).value.2

/-- The step that follows so many others. -/
def nextStep (count : Nat) : Run Port (Except HandshakeError Stage × Handshake) :=
  Dialogue.run (step (handshakeAfter settings port count)) (tried settings port count).port

/-- An earlier one of these steps failed in its close at the last query. -/
def LostSession (count : Nat) : Prop :=
  ∃ index < count, (handshakeAfter settings port index).stage = .querySupportedNew ∧
    FailsToClose (nextStep settings port index).transcript.calls

theorem tried_succ (count : Nat) :
    handshakeAfter settings port (count + 1) = (nextStep settings port count).value.2 ∧
      (tried settings port (count + 1)).transcript.calls =
        (tried settings port count).transcript.calls ++
          (nextStep settings port count).transcript.calls := by
  simp only [handshakeAfter, nextStep, tried, attempts_succ, Dialogue.run_bind]
  simp [Dialogue.run]

theorem moves_nextStep (count : Nat) :
    (handshakeAfter settings port count).Moves (nextStep settings port count).transcript.calls
      (nextStep settings port count).value.1 (handshakeAfter settings port (count + 1)) := by
  rw [(tried_succ settings port count).1]
  exact moves_of_performs (Dialogue.yields_run (step _) _)

theorem guarded_tried (count : Nat) :
    Guarded settings (tried settings port count).transcript.calls
      (handshakeAfter settings port count) :=
  (reaches_attempts settings count port).guarded

theorem owns_tried (count : Nat) : (handshakeAfter settings port count).Owns := by
  induction count with
  | zero => exact owns_new settings
  | succ count inductionHypothesis =>
      have guarded := guarded_tried settings port count
      exact (moves_nextStep settings port count).owns guarded.configured guarded.unopened
        inductionHypothesis

theorem occupies_tried (count : Nat) :
    ({ settings } : Handshake).Occupies (tried settings port count).transcript.calls
      (handshakeAfter settings port count) := by
  induction count with
  | zero => exact occupies_of_staysOpen staysOpen_nil rfl
  | succ count inductionHypothesis =>
      rw [(tried_succ settings port count).2]
      exact inductionHypothesis.trans
        ((moves_nextStep settings port count).occupies (guarded_tried settings port count).unopened)

theorem stranded_iff_lostSession (count : Nat) :
    (handshakeAfter settings port count).Stranded ↔ LostSession settings port count := by
  induction count with
  | zero =>
      constructor
      · rintro ⟨stage, -⟩
        cases stage
      · rintro ⟨index, before, -⟩
        cases before
  | succ count inductionHypothesis =>
      rw [(moves_nextStep settings port count).stranded_iff, inductionHypothesis]
      constructor
      · rintro (⟨index, before, lost⟩ | lost)
        · exact ⟨index, Nat.lt_succ_of_lt before, lost⟩
        · exact ⟨count, Nat.lt_succ_self count, lost⟩
      · rintro ⟨index, before, lost⟩
        rcases Nat.lt_succ_iff_lt_or_eq.mp before with earlier | rfl
        · exact .inl ⟨index, earlier, lost⟩
        · exact .inr lost

/-- A session that is gone for good stays so over any number of steps. -/
theorem nextStep_of_stranded {count : Nat}
    (stranded : (handshakeAfter settings port count).Stranded) (more : Nat) :
    handshakeAfter settings port (count + more) = handshakeAfter settings port count ∧
      (nextStep settings port (count + more)).value.1 = .error .notOpen ∧
      (nextStep settings port (count + more)).transcript.calls = [] := by
  have unchanged : handshakeAfter settings port (count + more) =
      handshakeAfter settings port count := by
    induction more with
    | zero => rfl
    | succ more inductionHypothesis =>
        have move := moves_nextStep settings port (count + more)
        rw [← inductionHypothesis] at stranded
        exact (move.of_stranded stranded).2.2.trans inductionHypothesis
  have move := moves_nextStep settings port (count + more)
  rw [← unchanged] at stranded
  obtain ⟨silent, refused, -⟩ := move.of_stranded stranded
  exact ⟨unchanged, refused, silent⟩

end Histories

/-- Over any number of steps, whatever fails in them: the port is opened only when every earlier
opening has been closed; each stage holds the session it needs, unless a close at the last query
failed; only then, and ever after, is a step refused for want of a session; and a change of rate
that failed is taken up again at its opening. -/
theorem port_held_exclusively {Port : Type} [Answering Port] (settings : Settings) (port : Port)
    (count : Nat) :
    let handshake := handshakeAfter settings port count
    let history := (tried settings port count).transcript.calls
    let next := nextStep settings port count
    (∀ earlier call answer later, history = earlier ++ (call, answer) :: later →
      call.kind = .connect → Released earlier) ∧
    (handshake.session = none ↔ Released history) ∧
    (handshake.stage = .probe ∨ handshake.stage = .querySupportedOld →
      handshake.rate = some settings.line.initialBaud) ∧
    (handshake.stage = .querySupportedNew → ¬ LostSession settings port count →
      handshake.rate = some settings.line.targetBaud) ∧
    (∀ outcome, handshake.stage = .done outcome → handshake.session = none) ∧
    (next.value.1 = .error .notOpen ↔
      handshake.stage = .querySupportedNew ∧ LostSession settings port count) ∧
    (next.value.1 = .error .notOpen → ∀ more,
      handshakeAfter settings port (count + more) = handshake ∧
      (nextStep settings port (count + more)).value.1 = .error .notOpen ∧
      (nextStep settings port (count + more)).transcript.calls = []) ∧
    (handshake.stage = .reopen → ∀ cause, next.value.1 = .error cause →
      ∃ answer,
        (nextStep settings port (count + 1)).transcript.calls =
          [(.connect settings.line.port settings.line.targetBaud settings.line.readTimeout,
            answer)] ∧
        (nextStep settings port (count + 1)).value.1 =
          (answer.mapError .port).map fun _ => .querySupportedNew) := by
  intro handshake history next
  have owns : handshake.Owns := owns_tried settings port count
  have sameSettings : handshake.settings = settings := (guarded_tried settings port count).unchanged
  have occupies := occupies_tried settings port count
  have move := moves_nextStep settings port count
  have lost := stranded_iff_lostSession settings port count
  unfold Owns at owns
  refine ⟨?_, ?_, ?_, ?_, ?_, ?_, ?_, ?_⟩
  · intro earlier call answer later split opening
    have free : OpensFree none history := occupies.free
    rw [split] at free
    exact released_of_opensFree free opening
  · rw [← rate_eq_none_iff, ← heldAfter_eq_none_iff]
    exact iff_of_eq (congrArg (· = none) occupies.rate)
  · rintro (stage | stage) <;> rw [stage, sameSettings] at owns <;> exact owns
  · intro stage unlost
    rw [stage, sameSettings] at owns
    apply owns.resolve_right
    intro vacant
    exact unlost (lost.mp ⟨stage, rate_eq_none_iff.mp vacant⟩)
  · intro outcome stage
    rw [stage] at owns
    exact rate_eq_none_iff.mp owns
  · rw [move.notOpen_iff (owns_tried settings port count), lost]
    constructor
    · intro gone
      exact ⟨(lost.mpr gone).1, gone⟩
    · exact And.right
  · intro refused
    exact nextStep_of_stranded settings port
      ((move.notOpen_iff (owns_tried settings port count)).mp refused)
  · intro stage cause failed
    have moved : handshake.Moves next.transcript.calls (.error cause) _ := failed ▸ move
    obtain ⟨stageAfter, absent⟩ := moved.of_failed_reopen stage
    have again := (moves_nextStep settings port (count + 1)).of_reopen stageAfter absent
    rw [opening, (guarded_tried settings port (count + 1)).unchanged] at again
    exact again

/-- The second opening, at the new rate, and the last close are made to fail. -/
theorem port_held_exclusively_retried :
    let settings : Settings := {}
    let script : Script :=
      { replies := []
        fault := fun kind before =>
          if kind = .connect ∧ before = 1 ∨ kind = .close ∧ before = 1 then some (.serial "gone")
          else none }
    (nextStep settings script 3).value.1 = .error (.port (.cannotOpen "/dev/ttyUSB0" "gone")) ∧
      (∃ answer, (nextStep settings script 4).transcript.calls =
        [(.connect "/dev/ttyUSB0" 921600 200, answer)]) ∧
      LostSession settings script 6 ∧
      (nextStep settings script 6).value.1 = .error .notOpen ∧
      ∀ more, (nextStep settings script (6 + more)).transcript.calls = [] := by
  intro settings script
  have reopening : (handshakeAfter settings script 3).stage = .reopen := by decide +kernel
  have unopened : (nextStep settings script 3).value.1 =
      .error (.port (.cannotOpen "/dev/ttyUSB0" "gone")) := by decide +kernel
  have refused : (nextStep settings script 6).value.1 = .error .notOpen := by decide +kernel
  obtain ⟨-, -, -, -, -, -, -, again⟩ := port_held_exclusively settings script 3
  obtain ⟨-, -, -, -, -, noSession, forGood, -⟩ := port_held_exclusively settings script 6
  obtain ⟨answer, opening, -⟩ := again reopening _ unopened
  exact ⟨unopened, ⟨answer, opening⟩, (noSession.mp refused).2, refused,
    fun more => (forGood refused more).2.2⟩

end Handshake

end BaudSwitch
