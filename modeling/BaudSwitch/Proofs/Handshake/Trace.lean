import BaudSwitch.Proofs.Handshake.Books
import BaudSwitch.Proofs.Port.Script

/-!
# The trace of a run

Where no call fails, two windows settle all that a run does: the one after the query at the old
rate, and the one after the query at the new rate.  The second of them is the third of the run
when the first says nothing, and else the fourth, since the reply to the divider comes between.
-/

namespace BaudSwitch.Handshake

section Words

variable (settings : Settings) (replies : List Bytes)

/-- What a read takes of a reply. Replies are counted from zero; behind the last there is only
silence. -/
def window (index : Nat) : Bytes :=
  (replies.getD index []).take settings.line.maxResponse.toNat

/-- What is heard in a window: the body of its first packet. Where replies are verified, a packet
that is refused is not heard. -/
def hears (index : Nat) : Bytes :=
  if settings.verifyChecksums then
    match Packet.extractVerified (window settings replies index) with
    | .ok body => body
    | .error _ => []
  else Packet.extract (window settings replies index)

def connected (baud : UInt32) : Exchange :=
  (.connect settings.line.port baud settings.line.readTimeout, .ok [])

def wrote (bytes : Bytes) : Exchange :=
  (.write bytes, .ok [])

def took (index : Nat) : Exchange :=
  (.read settings.line.maxResponse, .ok (window settings replies index))

def hungUp : Exchange :=
  (.close, .ok [])

/-- The packet that has the monitor write a divider into the register. -/
def dividerPacket (divider : UInt32) : Bytes :=
  Packet.frame (Bytes.ascii "qRcmd," ++ Hex.encode (Bytes.ascii "mw32 0x" ++
    Hex.padded 8 settings.target.baudRegister.toNat ++
    Bytes.ascii (" " ++ toString divider.toNat)))

/-- The first opening and the probe. -/
def greeting : List Exchange :=
  [connected settings settings.line.initialBaud, wrote (Bytes.ascii "$#00"),
    took settings replies 0, wrote (Bytes.ascii "+")]

/-- The change of rate and the query at the new rate, answered in this window. -/
def confirmation (index : Nat) : List Exchange :=
  [hungUp, connected settings settings.line.targetBaud, wrote (Bytes.ascii "+"),
    wrote (Bytes.ascii "$qSupported#37"), took settings replies index] ++
  if hears settings replies index = [] then [hungUp] else [wrote (Bytes.ascii "+"), hungUp]

/-- The query at the old rate and all that follows from it. -/
def inquiry : List Exchange :=
  [wrote (Bytes.ascii "$qSupported#37"), took settings replies 1] ++
  if hears settings replies 1 = [] then confirmation settings replies 2
  else
    match settings.divider? with
    | none => [wrote (Bytes.ascii "+")]
    | some divider =>
        [wrote (Bytes.ascii "+"), wrote (dividerPacket settings divider),
          took settings replies 2] ++
        confirmation settings replies 3

/-- All calls of a run in which no call fails. -/
def trace : List Exchange :=
  greeting settings replies ++ inquiry settings replies

/-- The report of a run that is judged by this window. -/
def judged (index : Nat) (divider : Option UInt32) (traffic : Traffic) : Report where
  outcome := if hears settings replies index = [] then .noResponse else .confirmed
  divider := divider
  speedChangeSent := divider.isSome
  traffic := traffic

/-- What a run returns in which no call fails. -/
def verdict (traffic : Traffic) : Except HandshakeError Report :=
  if hears settings replies 1 = [] then .ok (judged settings replies 2 none traffic)
  else
    match settings.divider? with
    | none => .error (.baudOutOfRange settings.line.targetBaud settings.target.clock)
    | some divider => .ok (judged settings replies 3 (some divider) traffic)

end Words

theorem packet_probe : Session.packet .probe = Bytes.ascii "$#00" := by
  decide

theorem packet_querySupported : Session.packet .querySupported = Bytes.ascii "$qSupported#37" := by
  decide

theorem packet_setDivider (settings : Settings) (divider : UInt32) :
    Session.packet (.setDivider settings.target.baudRegister divider) =
      dividerPacket settings divider := by
  have spelled : Bytes.ascii (" " ++ toString divider.toNat) =
      0x20 :: Command.decimal divider.toNat := by
    simp [Bytes.ascii, Command.decimal]
  rw [dividerPacket, spelled]
  rfl

theorem acknowledgement_eq : Packet.acknowledgement = Bytes.ascii "+" := by
  decide

theorem said_window (settings : Settings) (replies : List Bytes) (index : Nat) :
    Session.said settings.verifyChecksums (window settings replies index) =
      hears settings replies index := by
  unfold Session.said hears
  cases settings.verifyChecksums <;> rfl

section Stages

variable {handshake after : Handshake} {session : Session} {exchanges later : List Exchange}
  {result : Except HandshakeError Stage} {replies : List Bytes}

/-- A request is answered in the next window. -/
theorem asks (index : Nat) {settings : Settings} {last : Session} {command : Command}
    {heard : Except PortError Bytes} (follows : session.Follows settings)
    (asked : session.Requests command exchanges heard last)
    (served : Served (replies.drop index) (exchanges ++ later)) :
    exchanges = [wrote (Session.packet command), took settings replies index] ∧
      heard = .ok (hears settings replies index) ∧ last.Follows settings ∧
      Served (replies.drop (index + 1)) later := by
  have followed := follows.grows asked.grows
  cases asked with
  | unsent cause => cases served.1
  | unread echo cause => cases served.2.1
  | answered echo raw =>
      simp only [List.cons_append, List.nil_append, Served.write_iff, Served.read_iff,
        Except.ok.injEq, List.drop_drop] at served
      obtain ⟨rfl, rfl, onward⟩ := served
      have same : ((replies.drop index).getD 0 []).take session.maxResponse.toNat =
          window settings replies index := by
        simp [window, follows.maxResponse, List.getD_eq_getElem?_getD]
      rw [same] at followed ⊢
      rw [follows.verifyChecksums, follows.maxResponse, said_window]
      exact ⟨rfl, rfl, followed, onward⟩

theorem Opens.served {baud : UInt32} {next : Stage}
    (course : handshake.Opens baud next exchanges result after)
    (sound : ∀ cause, result ≠ .error (.port cause))
    (served : Served replies (exchanges ++ later)) :
    exchanges = [connected handshake.settings baud] ∧ result = .ok next ∧
      after = handshake.holding (handshake.fresh baud) ∧ Served replies later := by
  cases course with
  | refused cause => exact absurd rfl (sound cause)
  | opened echo =>
      obtain ⟨same, onward⟩ := served
      cases same
      exact ⟨rfl, rfl, rfl, onward⟩

theorem Probes.served (held : handshake.session = some session)
    (follows : session.Follows handshake.settings)
    (course : handshake.Probes exchanges result after)
    (sound : ∀ cause, result ≠ .error (.port cause))
    (served : Served replies (exchanges ++ later)) :
    exchanges = [wrote (Bytes.ascii "$#00"), took handshake.settings replies 0,
        wrote (Bytes.ascii "+")] ∧
      result = .ok .querySupportedOld ∧
      (∃ last, last.Follows handshake.settings ∧ after = handshake.holding last) ∧
      Served (replies.drop 1) later := by
  rw [← acknowledgement_eq, ← packet_probe]
  cases course with
  | notOpen absent =>
      rw [held] at absent
      cases absent
  | failed alsoHeld asked => exact absurd rfl (sound _)
  | unacknowledged alsoHeld asked cause => exact absurd rfl (sound cause)
  | probed alsoHeld asked echo =>
      cases held.symm.trans alsoHeld
      rw [List.append_assoc] at served
      obtain ⟨rfl, -, followed, acked⟩ := asks 0 follows asked served
      obtain ⟨same, onward⟩ := Served.write_iff.mp acked
      cases same
      exact ⟨rfl, rfl, ⟨_, followed.grows (Session.grows_acknowledged _ []), rfl⟩, onward⟩

/-- The query at the old rate either finds silence, or finds that the rate is out of reach, or
hands the divider over. -/
theorem Switches.served (held : handshake.session = some session)
    (follows : session.Follows handshake.settings)
    (course : handshake.Switches exchanges result after)
    (sound : ∀ cause, result ≠ .error (.port cause))
    (served : Served (replies.drop 1) (exchanges ++ later)) :
    let asking := [wrote (Bytes.ascii "$qSupported#37"), took handshake.settings replies 1]
    (hears handshake.settings replies 1 = [] ∧ exchanges = asking ∧ result = .ok .reopen ∧
      (∃ last, last.Follows handshake.settings ∧ after = handshake.holding last) ∧
      Served (replies.drop 2) later) ∨
    (hears handshake.settings replies 1 ≠ [] ∧ handshake.settings.divider? = none ∧
      exchanges = asking ++ [wrote (Bytes.ascii "+")] ∧
      result = .error (.baudOutOfRange handshake.settings.line.targetBaud
        handshake.settings.target.clock)) ∨
    ∃ divider, hears handshake.settings replies 1 ≠ [] ∧
      handshake.settings.divider? = some divider ∧
      exchanges = asking ++ [wrote (Bytes.ascii "+"),
        wrote (dividerPacket handshake.settings divider), took handshake.settings replies 2] ∧
      result = .ok .reopen ∧
      (∃ last, last.Follows handshake.settings ∧
        after = (handshake.holding last).gaveDivider divider) ∧
      Served (replies.drop 3) later := by
  intro asking
  rw [← acknowledgement_eq]
  cases course with
  | notOpen absent =>
      rw [held] at absent
      cases absent
  | failed alsoHeld asked => exact absurd rfl (sound _)
  | unacknowledged alsoHeld asked answered cause => exact absurd rfl (sound cause)
  | untold alsoHeld asked answered echo reachable told => exact absurd rfl (sound _)
  | silent alsoHeld asked =>
      cases held.symm.trans alsoHeld
      obtain ⟨rfl, silence, followed, onward⟩ := asks 1 follows asked served
      exact .inl ⟨(Except.ok.inj silence).symm, rfl, rfl, ⟨_, followed, rfl⟩, onward⟩
  | outOfRange alsoHeld asked answered echo unreachable =>
      cases held.symm.trans alsoHeld
      rw [List.append_assoc] at served
      obtain ⟨rfl, heard, -, acked⟩ := asks 1 follows asked served
      obtain ⟨same, -⟩ := Served.write_iff.mp acked
      cases heard
      cases same
      exact .inr (.inl ⟨answered, unreachable, rfl, rfl⟩)
  | switched alsoHeld asked answered echo reachable told =>
      cases held.symm.trans alsoHeld
      rw [List.append_assoc] at served
      obtain ⟨rfl, heard, followed, acked⟩ := asks 1 follows asked served
      obtain ⟨same, telling⟩ := Served.write_iff.mp acked
      cases heard
      cases same
      have follows := followed.grows (Session.grows_acknowledged _ [])
      obtain ⟨rfl, -, ready, onward⟩ := asks 2 follows told telling
      rw [packet_setDivider]
      exact .inr (.inr ⟨_, answered, reachable, rfl, rfl, ⟨_, ready, rfl⟩, onward⟩)

theorem Reopens.served (held : handshake.session = some session)
    (course : handshake.Reopens exchanges result after)
    (sound : ∀ cause, result ≠ .error (.port cause))
    (served : Served replies (exchanges ++ later)) :
    exchanges = [hungUp, connected handshake.settings handshake.settings.line.targetBaud] ∧
      result = .ok .querySupportedNew ∧
      after = (handshake.tookOver session).holding
        (handshake.fresh handshake.settings.line.targetBaud) ∧
      Served replies later := by
  cases course with
  | unclosed closing =>
      cases closing with
      | failed alsoHeld cause => exact absurd rfl (sound cause)
  | closed closing opening =>
      cases closing with
      | absent absent =>
          rw [held] at absent
          cases absent
      | closed alsoHeld echo =>
          cases held.symm.trans alsoHeld
          obtain ⟨same, opened⟩ := Served.close_iff.mp served
          cases same
          obtain ⟨rfl, rfl, rfl, onward⟩ := opening.served sound opened
          exact ⟨rfl, rfl, rfl, onward⟩

/-- The query at the new rate decides the outcome. -/
theorem Confirms.served {index : Nat} (held : handshake.session = some session)
    (follows : session.Follows handshake.settings)
    (course : handshake.Confirms exchanges result after)
    (sound : ∀ cause, result ≠ .error (.port cause))
    (served : Served (replies.drop index) (exchanges ++ later)) :
    hungUp :: connected handshake.settings handshake.settings.line.targetBaud :: exchanges =
        confirmation handshake.settings replies index ∧
      result = .ok (.done
        (if hears handshake.settings replies index = [] then .noResponse else .confirmed)) ∧
      ∃ last, after = handshake.tookOver last := by
  rw [confirmation, ← acknowledgement_eq, ← packet_querySupported]
  have follows := follows.grows (Session.grows_acknowledged session [])
  cases course with
  | notOpen absent =>
      rw [held] at absent
      cases absent
  | ungreeted alsoHeld cause => exact absurd rfl (sound cause)
  | failed alsoHeld echo asked => exact absurd rfl (sound _)
  | silentUnclosed alsoHeld echo asked cause => exact absurd rfl (sound cause)
  | unacknowledged alsoHeld echo asked answered cause => exact absurd rfl (sound cause)
  | answeredUnclosed alsoHeld echo asked answered again cause => exact absurd rfl (sound cause)
  | silent alsoHeld echo asked farewell =>
      cases held.symm.trans alsoHeld
      rw [List.append_assoc, List.cons_append] at served
      obtain ⟨greeted, asking⟩ := Served.write_iff.mp served
      obtain ⟨rfl, heard, -, closing⟩ := asks index follows asked asking
      obtain ⟨ended, -⟩ := Served.close_iff.mp closing
      cases greeted
      cases ended
      have silence := (Except.ok.inj heard).symm
      rw [if_pos silence, if_pos silence]
      exact ⟨rfl, rfl, _, rfl⟩
  | confirmed alsoHeld echo asked answered again farewell =>
      cases held.symm.trans alsoHeld
      rw [List.append_assoc, List.cons_append] at served
      obtain ⟨greeted, asking⟩ := Served.write_iff.mp served
      obtain ⟨rfl, heard, -, acking⟩ := asks index follows asked asking
      obtain ⟨acked, closing⟩ := Served.write_iff.mp acking
      obtain ⟨ended, -⟩ := Served.close_iff.mp closing
      cases heard
      cases greeted
      cases acked
      cases ended
      rw [if_neg answered, if_neg answered]
      exact ⟨rfl, rfl, _, rfl⟩

end Stages

section Runs

variable {handshake after : Handshake} {session : Session} {exchanges later : List Exchange}
  {replies : List Bytes}

theorem blames_request {command : Command} {last : Session} {cause : PortError}
    (asked : session.Requests command exchanges (.error cause) last) :
    ∃ request, (request, .error cause) ∈ exchanges := by
  cases asked with
  | unsent => exact ⟨_, List.mem_singleton_self _⟩
  | unread echo => exact ⟨_, List.mem_cons_of_mem _ (List.mem_singleton_self _)⟩

/-- A failure of the port is the failure of a call that was made. -/
theorem Pursues.blames {stage : Stage} {cause : PortError}
    (course : handshake.Pursues stage exchanges (.error (.port cause)) after) :
    ∃ request, (request, .error cause) ∈ exchanges := by
  cases stage with
  | openOld =>
      cases course with
      | refused => exact ⟨_, List.mem_singleton_self _⟩
  | probe =>
      cases course with
      | failed held asked => exact blames_request asked
      | unacknowledged => exact ⟨_, List.mem_append_right _ (List.mem_singleton_self _)⟩
  | querySupportedOld =>
      cases course with
      | failed held asked => exact blames_request asked
      | unacknowledged => exact ⟨_, List.mem_append_right _ (List.mem_singleton_self _)⟩
      | untold held asked answered echo reachable told =>
          obtain ⟨request, membership⟩ := blames_request told
          exact ⟨request, List.mem_append_right _ (List.mem_cons_of_mem _ membership)⟩
  | reopen =>
      cases course with
      | unclosed closing =>
          cases closing with
          | failed => exact ⟨_, List.mem_singleton_self _⟩
      | closed closing opening =>
          cases opening with
          | refused => exact ⟨_, List.mem_append_right _ (List.mem_singleton_self _)⟩
  | querySupportedNew =>
      cases course with
      | ungreeted => exact ⟨_, List.mem_singleton_self _⟩
      | failed held echo asked =>
          obtain ⟨request, membership⟩ := blames_request asked
          exact ⟨request, List.mem_cons_of_mem _ membership⟩
      | silentUnclosed => exact ⟨_, List.mem_append_right _ (List.mem_singleton_self _)⟩
      | unacknowledged => exact ⟨_, List.mem_append_right _ (List.mem_singleton_self _)⟩
      | answeredUnclosed =>
          exact ⟨_, List.mem_append_right _ (List.mem_cons_of_mem _ (List.mem_singleton_self _))⟩
  | done outcome => cases course.2.1

theorem Pursues.sound {stage : Stage} {result : Except HandshakeError Stage}
    (course : handshake.Pursues stage exchanges result after)
    (served : Served replies (exchanges ++ later)) (cause : PortError) :
    result ≠ .error (.port cause) := by
  rintro rfl
  obtain ⟨request, membership⟩ := course.blames
  exact served.error_notMem request cause (List.mem_append_left _ membership)

variable {result : Except HandshakeError Report}

theorem Runs.served_reopen {index : Nat} (course : Runs handshake exchanges result after)
    (stage : handshake.stage = .reopen) (held : handshake.session = some session)
    (served : Served (replies.drop index) exchanges) :
    exchanges = confirmation handshake.settings replies index ∧
      result = .ok
        { outcome :=
            if hears handshake.settings replies index = [] then .noResponse else .confirmed
          divider := handshake.divider
          speedChangeSent := handshake.speedChangeSent
          traffic := after.books } := by
  obtain ⟨opening, rest, _, _, rfl, pursued, onward⟩ := course.pursues
  rw [stage] at pursued
  have sound := pursued.sound served
  obtain ⟨rfl, rfl, rfl, served⟩ := Reopens.served held pursued sound served
  obtain ⟨asking, _, _, _, rfl, pursued, ending⟩ := Runs.pursues onward
  have sound := pursued.sound served
  obtain ⟨made, rfl, last, rfl⟩ := Confirms.served rfl ⟨rfl, rfl⟩ pursued sound served
  obtain ⟨rfl, rfl, rfl⟩ := ending
  rw [List.append_nil]
  exact ⟨made, rfl⟩

theorem Runs.served_query (course : Runs handshake exchanges result after)
    (stage : handshake.stage = .querySupportedOld)
    (unsent : handshake.divider = none ∧ handshake.speedChangeSent = false)
    (held : handshake.session = some session) (follows : session.Follows handshake.settings)
    (served : Served (replies.drop 1) exchanges) :
    exchanges = inquiry handshake.settings replies ∧
      result = verdict handshake.settings replies after.books := by
  obtain ⟨asking, rest, _, middle, rfl, pursued, onward⟩ := course.pursues
  rw [stage] at pursued
  have sound := pursued.sound served
  rcases Switches.served held follows pursued sound served with
    ⟨silence, rfl, rfl, ⟨last, -, rfl⟩, served⟩ |
      ⟨answered, unreachable, rfl, rfl⟩ |
      ⟨divider, answered, reachable, rfl, rfl, ⟨last, -, rfl⟩, served⟩
  · obtain ⟨rfl, rfl⟩ := Runs.served_reopen onward rfl rfl served
    rw [inquiry, verdict, if_pos silence, if_pos silence]
    refine ⟨rfl, ?_⟩
    simp [judged, reached, holding, unsent]
  · obtain ⟨rfl, rfl, rfl⟩ := onward
    rw [inquiry, verdict, if_neg answered, if_neg answered, unreachable]
    exact ⟨rfl, rfl⟩
  · obtain ⟨rfl, rfl⟩ := Runs.served_reopen onward rfl rfl served
    rw [inquiry, verdict, if_neg answered, if_neg answered, reachable]
    exact ⟨rfl, rfl⟩

theorem Runs.served_new {settings : Settings} (course : Runs { settings } exchanges result after)
    (served : Served replies exchanges) :
    exchanges = trace settings replies ∧ result = verdict settings replies after.books := by
  -- Each stage takes its exchanges off the front, and `served` is left for the rest.
  obtain ⟨opening, _, _, _, rfl, pursued, onward⟩ := course.pursues
  have sound := pursued.sound served
  obtain ⟨rfl, rfl, rfl, served⟩ := Opens.served pursued sound served
  obtain ⟨probing, _, _, _, rfl, pursued, onward⟩ := Runs.pursues onward
  have sound := pursued.sound served
  obtain ⟨rfl, rfl, ⟨last, follows, rfl⟩, served⟩ :=
    Probes.served rfl ⟨rfl, rfl⟩ pursued sound served
  obtain ⟨rfl, rfl⟩ := Runs.served_query onward rfl ⟨rfl, rfl⟩ rfl follows served
  exact ⟨rfl, rfl⟩

end Runs

/-- A run in which no call fails makes just the calls of its trace, and its report counts just
what they carried. -/
theorem run_trace (settings : Settings) (replies : List Bytes) :
    let ended := Dialogue.run (run { settings }) ({ replies } : Script)
    ended.transcript.calls = trace settings replies ∧
      ended.transcript.events = (trace settings replies).map Prod.fst ∧
      ended.value.1 = verdict settings replies
        (Traffic.tally settings.verifyChecksums (trace settings replies)) := by
  intro ended
  have course : Runs { settings } ended.transcript.calls ended.value.1 ended.value.2 :=
    runs_run { settings } _
  have served : Served replies ended.transcript.calls :=
    @Script.served_of_answered { replies } _ (Dialogue.answered_run _ _)
  obtain ⟨made, returned⟩ := course.served_new served
  have kept := course.keeps (configured_new settings) (unopened_new settings)
  have books := kept.books fun cause => served.error_notMem _ cause
  refine ⟨made, ?_, ?_⟩
  · rw [Transcript.events_eq, served.succeeded, made]
  · rw [returned, books, made]
    exact congrArg (verdict settings replies) (Traffic.empty_add _)

/-- Every window is heard, the last one behind noise, and the divider goes out. With replies
verified, the wrong trailer in the second window makes it silence, so the third window decides. -/
theorem run_trace_heard :
    let replies :=
      ["$T05#b9", "$PacketSize=5bc#00", "$OK#9a", "+$PacketSize=5bc#2a"].map Bytes.ascii
    let ended (verify : Bool) :=
      Dialogue.run (run { settings := { verifyChecksums := verify } }) ({ replies } : Script)
    let opening (baud : UInt32) : Call := .connect "/dev/ttyUSB0" baud 200
    let writing (text : String) : Call := .write (Bytes.ascii text)
    let greeted :=
      [opening 115200, writing "$#00", .read 1468, writing "+", writing "$qSupported#37",
        .read 1468]
    let confirmed :=
      [.close, opening 921600, writing "+", writing "$qSupported#37", .read 1468, writing "+",
        .close]
    (ended false).transcript.events =
        greeted ++ [writing "+", writing "$qRcmd,6d7733322030783230323135303638203333#88",
          .read 1468] ++ confirmed ∧
      (ended false).value.1 = .ok
        { outcome := .confirmed
          divider := some 33
          speedChangeSent := true
          traffic :=
            { packetsSent := 4, packetsReceived := 4, acksSent := 4, bytesSent := 82
              bytesReceived := 50 } } ∧
      (ended true).transcript.events = greeted ++ confirmed ∧
      (ended true).value.1 = .ok
        { outcome := .confirmed
          divider := none
          speedChangeSent := false
          traffic :=
            { packetsSent := 3, packetsReceived := 2, acksSent := 3, bytesSent := 35
              bytesReceived := 31 } } := by
  intro replies ended opening writing greeted confirmed
  obtain ⟨-, trusting, trusted⟩ := run_trace {} replies
  obtain ⟨-, verifying, verified⟩ := run_trace { verifyChecksums := true } replies
  refine ⟨trusting.trans ?_, trusted.trans ?_, verifying.trans ?_, verified.trans ?_⟩
  all_goals decide +kernel

end BaudSwitch.Handshake
