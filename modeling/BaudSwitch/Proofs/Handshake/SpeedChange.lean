import BaudSwitch.Proofs.Handshake.Completion

/-!
# What a report says of the speed change

A handshake notes the speed change once the window behind the divider was read.  So a report tells
of the change just when such a window was read, and while no such window fails, just when a packet
went out to the monitor.  When the window fails and the query that is then tried again finds
silence, the packet went out and the report denies it.
-/

namespace BaudSwitch

/-- The packets for the monitor that went out. -/
def toldMonitor (exchanges : List Exchange) : List Bytes :=
  (exchanges.filterMap Exchange.written?).filter (Bytes.ascii "$qRcmd," <+: ·)

/-- A packet for the monitor went out, and this came of the window read right behind it. -/
def Followed (exchanges : List Exchange) (answer : Answer) : Prop :=
  ∃ packet echo limit, Bytes.ascii "$qRcmd," <+: packet ∧
    [(.write packet, .ok echo), (.read limit, answer)] <:+: exchanges

/-- No window is read first, so that nothing earlier is answered in these exchanges. -/
def BeginsAnew (exchanges : List Exchange) : Prop :=
  ∀ limit answer, exchanges.head? ≠ some (.read limit, answer)

section History

variable {first second exchanges : List Exchange} {answer : Answer}

@[simp]
theorem toldMonitor_nil : toldMonitor [] = [] := rfl

@[simp]
theorem toldMonitor_append (first second : List Exchange) :
    toldMonitor (first ++ second) = toldMonitor first ++ toldMonitor second := by
  simp [toldMonitor]

theorem mem_toldMonitor_iff {packet : Bytes} :
    packet ∈ toldMonitor exchanges ↔
      Bytes.ascii "$qRcmd," <+: packet ∧ ∃ echo, (.write packet, .ok echo) ∈ exchanges := by
  rw [toldMonitor, List.mem_filter, List.mem_filterMap, decide_eq_true_iff, and_comm]
  apply and_congr_right
  intro _
  constructor
  · rintro ⟨⟨_ | _ | _ | _, _ | echo⟩, membership, same⟩
    all_goals cases same
    exact ⟨echo, membership⟩
  · rintro ⟨echo, membership⟩
    exact ⟨_, membership, rfl⟩

theorem toldMonitor_of_unmonitored (unmonitored : monitored exchanges = 0) :
    toldMonitor exchanges = [] := by
  apply List.eq_nil_iff_forall_not_mem.mpr
  intro packet membership
  obtain ⟨marked, echo, written⟩ := mem_toldMonitor_iff.mp membership
  have quiet := List.countP_eq_zero.mp unmonitored _ written
  rw [toMonitor_write] at quiet
  exact quiet (decide_eq_true marked)

theorem Followed.told (followed : Followed exchanges answer) : toldMonitor exchanges ≠ [] := by
  obtain ⟨packet, echo, limit, marked, behind⟩ := followed
  apply List.ne_nil_of_mem
  exact mem_toldMonitor_iff.mpr ⟨marked, echo, behind.mem List.mem_cons_self⟩

theorem not_followed_of_untold (quiet : toldMonitor exchanges = []) :
    ¬ Followed exchanges answer :=
  fun followed => followed.told quiet

/-- A window is read behind a packet on one side of a cut, unless the cut comes between them. -/
theorem followed_append (anew : BeginsAnew second) :
    Followed (first ++ second) answer ↔ Followed first answer ∨ Followed second answer := by
  constructor
  · rintro ⟨packet, echo, limit, marked, behind⟩
    rcases List.infix_append_iff_ne_nil.mp behind with
      before | after | ⟨left, right, someLeft, someRight, pair, -, start⟩
    · exact .inl ⟨packet, echo, limit, marked, before⟩
    · exact .inr ⟨packet, echo, limit, marked, after⟩
    · -- Both sides have a part of the pair, so the read stands first behind the cut.
      rcases List.cons_eq_append_iff.mp pair with ⟨rfl, -⟩ | ⟨rest, rfl, tail⟩
      · exact absurd rfl someLeft
      · rcases List.cons_eq_append_iff.mp tail with ⟨rfl, rfl⟩ | ⟨_, rfl, ended⟩
        · obtain ⟨later, rfl⟩ := start
          exact absurd rfl (anew limit answer)
        · exact absurd (List.append_eq_nil_iff.mp ended.symm).2 someRight
  · rintro (⟨packet, echo, limit, marked, behind⟩ | ⟨packet, echo, limit, marked, behind⟩)
    · exact ⟨packet, echo, limit, marked, behind.trans (List.prefix_append _ _).isInfix⟩
    · exact ⟨packet, echo, limit, marked, behind.trans (List.suffix_append _ _).isInfix⟩

theorem followed_pair {packet echo : Bytes} {limit : UInt64} {given : Answer}
    (marked : Bytes.ascii "$qRcmd," <+: packet) :
    Followed [(.write packet, .ok echo), (.read limit, given)] answer ↔ answer = given := by
  constructor
  · rintro ⟨_, _, _, -, behind⟩
    cases behind.eq_of_length rfl
    rfl
  · rintro rfl
    exact ⟨packet, echo, limit, marked, List.infix_rfl⟩

/-- Every command for the monitor is marked as one. -/
theorem monitor_marked (line : Bytes) :
    Bytes.ascii "$qRcmd," <+: Session.packet (.monitor line) := by
  refine ⟨Packet.escape (Hex.encode line) ++ Packet.stopMark ::
    Hex.encodeOctet (Packet.checksum (Command.payload (.monitor line))), ?_⟩
  have verb : Bytes.ascii "$qRcmd," =
      Packet.startMark :: Packet.escape Command.monitorVerb := by decide
  rw [verb, Session.packet, Packet.frame, Command.payload]
  simp [Packet.escape]

end History

namespace Handshake

variable {settings : Settings} {handshake after : Handshake} {session : Session}
  {exchanges history : List Exchange} {result : Except HandshakeError Stage}

/-! ## What the stages note -/

/-- What a handshake has noted of the speed change. -/
def note (handshake : Handshake) : Option UInt32 × Bool :=
  (handshake.divider, handshake.speedChangeSent)

/-- What a step makes of the speed change: no packet goes out to the monitor; or the divider goes
out, and the window behind it is lost, or heard and the change noted. -/
inductive Notes (handshake : Handshake) (exchanges : List Exchange) (after : Handshake) :
    Prop where
  | untold (quiet : toldMonitor exchanges = []) (same : after.note = handshake.note)
  | lost {divider cause} (reachable : handshake.settings.divider? = some divider)
      (told : toldMonitor exchanges = [Session.packet (handshake.dividerCommand divider)])
      (followed : ∀ answer, Followed exchanges answer ↔ answer = .error cause)
      (same : after.note = handshake.note)
  | heard {divider raw} (reachable : handshake.settings.divider? = some divider)
      (told : toldMonitor exchanges = [Session.packet (handshake.dividerCommand divider)])
      (followed : ∀ answer, Followed exchanges answer ↔ answer = .ok raw)
      (noted : after.note = (some divider, true))

/-- The divider and the window behind it, read or not, stand out from all that leads up to them. -/
theorem told_divider {leading : List Exchange} {line echo : Bytes} {limit : UInt64}
    {answer : Answer} (unmonitored : monitored leading = 0) :
    let exchanges := leading ++ [(.write (Session.packet (.monitor line)), .ok echo),
      (.read limit, answer)]
    toldMonitor exchanges = [Session.packet (.monitor line)] ∧
      ∀ other, Followed exchanges other ↔ other = answer := by
  intro exchanges
  have marked := monitor_marked line
  have quiet := toldMonitor_of_unmonitored unmonitored
  constructor
  · rw [toldMonitor_append, quiet, List.nil_append]
    simp [toldMonitor, Exchange.written?, marked]
  · intro other
    have anew : BeginsAnew [(.write (Session.packet (.monitor line)), .ok echo),
        (.read limit, answer)] := by
      simp [BeginsAnew]
    rw [followed_append anew, followed_pair marked]
    exact or_iff_right (not_followed_of_untold quiet)

theorem Switches.notes (course : handshake.Switches exchanges result after) :
    handshake.Notes exchanges after := by
  cases course with
  | notOpen => exact .untold rfl rfl
  | failed held asked =>
      exact .untold (toldMonitor_of_unmonitored (monitored_ordinary (.inr rfl) asked)) rfl
  | silent held asked =>
      exact .untold (toldMonitor_of_unmonitored (monitored_ordinary (.inr rfl) asked)) rfl
  | unacknowledged held asked =>
      refine .untold (toldMonitor_of_unmonitored ?_) rfl
      simp [monitored_ordinary (.inr rfl) asked]
  | outOfRange held asked =>
      refine .untold (toldMonitor_of_unmonitored ?_) rfl
      simp [monitored_ordinary (.inr rfl) asked]
  | @untold _ _ _ asking _ _ _ _ held asked answered echo reachable told =>
      have leading : monitored (asking ++ [(.write Packet.acknowledgement, .ok echo)]) = 0 := by
        simp [monitored_ordinary (.inr rfl) asked]
      -- The step fails either way, but only an unsent divider has left the line quiet.
      cases told with
      | unsent cause =>
          refine .untold ?_ rfl
          rw [List.append_cons, toldMonitor_append, toldMonitor_of_unmonitored leading]
          rfl
      | unread sent cause =>
          obtain ⟨told, followed⟩ := told_divider leading
          rw [← List.append_cons] at told followed
          exact .lost reachable told followed rfl
  | @switched _ _ _ asking _ _ _ _ held asked answered echo reachable told =>
      have leading : monitored (asking ++ [(.write Packet.acknowledgement, .ok echo)]) = 0 := by
        simp [monitored_ordinary (.inr rfl) asked]
      cases told with
      | answered sent raw =>
          obtain ⟨told, followed⟩ := told_divider leading
          rw [← List.append_cons] at told followed
          exact .heard reachable told followed rfl

theorem Pursues.note_eq {stage : Stage} (elsewhere : stage ≠ .querySupportedOld)
    (course : handshake.Pursues stage exchanges result after) : after.note = handshake.note := by
  cases stage with
  | querySupportedOld => exact absurd rfl elsewhere
  | reopen =>
      cases course with
      | unclosed closing => cases closing; rfl
      | closed closing opening => cases closing <;> cases opening <;> rfl
  | done outcome => rw [course.2.2]
  | _ => cases course <;> rfl

theorem Pursues.notes {stage : Stage} (course : handshake.Pursues stage exchanges result after) :
    handshake.Notes exchanges after := by
  by_cases querying : stage = .querySupportedOld
  · subst querying
    exact Switches.notes course
  · exact .untold (toldMonitor_of_unmonitored (course.unmonitored querying))
      (course.note_eq querying)

theorem Moves.notes (move : handshake.Moves exchanges result after) :
    handshake.Notes exchanges after := by
  cases move with
  | failed course => exact course.notes
  | advanced course =>
      cases course.notes with
      | untold quiet same => exact .untold quiet same
      | lost reachable told followed same => exact .lost reachable told followed same
      | heard reachable told followed noted => exact .heard reachable told followed noted

theorem requests_begin_anew {command : Command} {last : Session} {heard : Except PortError Bytes}
    {later : List Exchange} (asked : session.Requests command exchanges heard last) :
    BeginsAnew (exchanges ++ later) := by
  cases asked <;> simp [BeginsAnew]

/-- No step begins with a read. -/
theorem Moves.begins_anew (move : handshake.Moves exchanges result after) :
    BeginsAnew exchanges := by
  obtain ⟨last, course⟩ := move.pursues
  rw [← List.append_nil exchanges]
  cases stage : handshake.stage <;> rw [stage] at course
  case openOld => cases course <;> simp [BeginsAnew]
  case probe =>
    cases course with
    | notOpen => simp [BeginsAnew]
    | failed held asked => exact requests_begin_anew asked
    | _ held asked => rw [List.append_assoc]; exact requests_begin_anew asked
  case querySupportedOld =>
    cases course with
    | notOpen => simp [BeginsAnew]
    | failed held asked => exact requests_begin_anew asked
    | silent held asked => exact requests_begin_anew asked
    | _ held asked => rw [List.append_assoc]; exact requests_begin_anew asked
  case reopen =>
    cases course with
    | unclosed closing => cases closing; simp [BeginsAnew]
    | closed closing opening => cases closing <;> cases opening <;> simp [BeginsAnew]
  case querySupportedNew => cases course <;> simp [BeginsAnew]
  case done outcome => simp [course.1, BeginsAnew]

/-! ## Histories -/

/-- What a handshake has noted, against its history. -/
structure Noted (settings : Settings) (history : List Exchange) (handshake : Handshake) :
    Prop where
  sent : handshake.speedChangeSent = true ↔ ∃ raw, Followed history (.ok raw)
  divider : handshake.divider = if handshake.speedChangeSent then settings.divider? else none
  packets : ∀ packet ∈ toldMonitor history, ∃ divider, settings.divider? = some divider ∧
    packet = Session.packet (.setDivider settings.target.baudRegister divider)
  answered : toldMonitor history ≠ [] → ∃ answer, Followed history answer

theorem noted_new (settings : Settings) : Noted settings [] { settings } where
  sent := by simp [Followed]
  divider := rfl
  packets := by simp
  answered := by simp

/-- With one more packet that carries the divider, all of them still do. -/
theorem Noted.packets_told {divider : UInt32} (noted : Noted settings history handshake)
    (reachable : settings.divider? = some divider)
    (told : toldMonitor exchanges =
      [Session.packet (.setDivider settings.target.baudRegister divider)]) :
    ∀ packet ∈ toldMonitor (history ++ exchanges), ∃ divider, settings.divider? = some divider ∧
      packet = Session.packet (.setDivider settings.target.baudRegister divider) := by
  intro packet membership
  rw [toldMonitor_append, told, List.mem_append, List.mem_singleton] at membership
  rcases membership with earlier | rfl
  · exact noted.packets packet earlier
  · exact ⟨divider, reachable, rfl⟩

theorem Noted.moves (noted : Noted settings history handshake)
    (unchanged : handshake.settings = settings)
    (move : handshake.Moves exchanges result after) :
    Noted settings (history ++ exchanges) after := by
  subst unchanged
  -- As no step begins with a read, a packet and the window behind it never lie in two steps.
  have cut {answer : Answer} := @followed_append history exchanges answer move.begins_anew
  cases move.notes with
  | untold quiet same =>
      obtain ⟨sameDivider, sameSent⟩ := Prod.mk.inj same
      have nothing {answer : Answer} : ¬ Followed exchanges answer := not_followed_of_untold quiet
      constructor
      · simp only [sameSent, cut, nothing, or_false, noted.sent]
      · rw [sameDivider, sameSent, noted.divider]
      · rw [toldMonitor_append, quiet, List.append_nil]
        exact noted.packets
      · simp only [toldMonitor_append, quiet, List.append_nil, cut, nothing, or_false]
        exact noted.answered
  | @lost _ cause reachable told followed same =>
      obtain ⟨sameDivider, sameSent⟩ := Prod.mk.inj same
      constructor
      · simp only [sameSent, cut, followed, reduceCtorEq, or_false, noted.sent]
      · rw [sameDivider, sameSent, noted.divider]
      · exact noted.packets_told reachable told
      · intro _
        exact ⟨.error cause, cut.mpr (.inr ((followed _).mpr rfl))⟩
  | @heard _ raw reachable told followed changed =>
      obtain ⟨divider, sent⟩ := Prod.mk.inj changed
      have heard : Followed (history ++ exchanges) (.ok raw) :=
        cut.mpr (.inr ((followed _).mpr rfl))
      constructor
      · exact iff_of_true sent ⟨raw, heard⟩
      · rw [divider, sent, if_pos rfl, reachable]
      · exact noted.packets_told reachable told
      · exact fun _ => ⟨.ok raw, heard⟩

theorem Reaches.noted (reached : Reaches settings history handshake) :
    Noted settings history handshake := by
  induction reached with
  | new => exact noted_new settings
  | moved reached move inductionHypothesis =>
      exact inductionHypothesis.moves reached.guarded.unchanged move

/-- A run that follows any number of steps, failed ones tried again among them, reports the speed
change just when a window behind the divider was read.  While no such window fails, that is when a
packet went out to the monitor. -/
theorem report_tells_heard_speed_change {Port : Type} [Answering Port] (settings : Settings)
    (port : Port) (count : Nat) (report : Report)
    (completed : (completion settings port count).value.1 = .ok report) :
    let history := wholeHistory settings port count
    (report.speedChangeSent = true ↔ ∃ raw, Followed history (.ok raw)) ∧
    report.divider = (if report.speedChangeSent then settings.divider? else none) ∧
    ((∀ cause, ¬ Followed history (.error cause)) →
      ((report.speedChangeSent = true ∧ ∃ divider, report.divider = some divider ∧
        ∀ packet ∈ toldMonitor history,
          packet = Packet.frame (Command.setDivider settings.target.baudRegister divider).payload) ↔
      toldMonitor history ≠ [])) := by
  intro history
  obtain ⟨rfl, -⟩ := completion_ends completed
  have noted := (reaches_completion settings port count).noted
  refine ⟨noted.sent, noted.divider, ?_⟩
  intro unlost
  constructor
  · rintro ⟨sent, -⟩
    obtain ⟨raw, heard⟩ := noted.sent.mp sent
    exact heard.told
  · intro told
    obtain ⟨cause | raw, followed⟩ := noted.answered told
    · exact absurd followed (unlost cause)
    · have sent := noted.sent.mpr ⟨raw, followed⟩
      obtain ⟨packet, membership⟩ := List.exists_mem_of_ne_nil _ told
      obtain ⟨divider, reachable, -⟩ := noted.packets packet membership
      refine ⟨sent, divider, ?_, ?_⟩
      · exact noted.divider.trans ((if_pos sent).trans reachable)
      · intro other alsoTold
        obtain ⟨same, alsoReachable, rfl⟩ := noted.packets other alsoTold
        cases reachable.symm.trans alsoReachable
        rfl

/-- The divider itself fails to go out at first, and so does the second opening. -/
theorem report_tells_heard_speed_change_retried :
    let settings : Settings := {}
    let script : Script :=
      { replies := [[], Bytes.ascii "$OK#9a", Bytes.ascii "$OK#9a"]
        fault := fun kind before =>
          if kind = .write ∧ before = 4 ∨ kind = .connect ∧ before = 1 then some (.io "unplugged")
          else none }
    let history := wholeHistory settings script 5
    let report : Report :=
      { outcome := .noResponse, divider := some 33, speedChangeSent := true
        traffic :=
          { packetsSent := 5, packetsReceived := 2, acksSent := 4, bytesSent := 96
            bytesReceived := 12 } }
    (completion settings script 5).value.1 = .ok report ∧
      (∀ cause, ¬ Followed history (.error cause)) ∧ toldMonitor history ≠ [] := by
  intro settings script history report
  have completed : (completion settings script 5).value.1 = .ok report := by decide +kernel
  have unlost : ∀ cause, ¬ Followed history (.error cause) := by
    have sound : history.all fun exchange =>
        exchange.1.kind != .read || exchange.succeeded?.isSome := by decide +kernel
    rintro cause ⟨packet, echo, limit, -, behind⟩
    have lost : (.read limit, .error cause) ∈ history := behind.mem (by simp)
    cases List.all_eq_true.mp sound _ lost
  obtain ⟨-, -, told⟩ := report_tells_heard_speed_change settings script 5 report completed
  refine ⟨completed, unlost, (told unlost).mp ⟨rfl, 33, rfl, ?_⟩⟩
  decide +kernel

/-- The window behind the divider fails, and the query that is tried again finds silence: the
divider went out, and the report denies it. -/
theorem report_denies_speed_change :
    let settings : Settings := {}
    let script : Script :=
      { replies := [[], Bytes.ascii "$OK#9a"]
        fault := fun kind before =>
          if kind = .read ∧ before = 2 then some (.io "unplugged") else none }
    let report : Report :=
      { outcome := .noResponse, divider := none, speedChangeSent := false
        traffic :=
          { packetsSent := 5, packetsReceived := 1, acksSent := 3, bytesSent := 95
            bytesReceived := 6 } }
    toldMonitor (wholeHistory settings script 3) =
        [Packet.frame (Command.setDivider 0x20215068 33).payload] ∧
      (completion settings script 3).value.1 = .ok report := by
  decide +kernel

end Handshake

end BaudSwitch
