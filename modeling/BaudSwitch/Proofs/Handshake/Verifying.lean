import BaudSwitch.Proofs.Handshake.Accounts
import BaudSwitch.Proofs.Handshake.Trace
import BaudSwitch.Proofs.Packet.Verdict

/-!
# Verified and trusted replies

A run that verifies its replies against one that trusts them, on the same replies.  Verifying can
only silence a reply.  Where it silences none the two runs are the same, and a divider that goes
out to a verified answer goes out to the trusted one as well, behind the same calls.
-/

namespace BaudSwitch

namespace Packet

/-- The first packet of a reply is as it was framed, if there is a packet at all. -/
def Intact (raw : Bytes) : Prop :=
  startMark ∉ raw ∨
    ∃ noise payload suffix, startMark ∉ noise ∧ raw = noise ++ frame payload ++ suffix

/-- What the verifying reader accepts is what the trusting reader takes. -/
theorem extract_of_verified {raw body : Bytes} (accepted : extractVerified raw = .ok body) :
    extract raw = body := by
  obtain ⟨result, verdict⟩ := exists_verdict raw
  rw [verdict.extractVerified_eq] at accepted
  subst accepted
  exact verdict.extract_eq

theorem Intact.extractVerified {raw : Bytes} (intact : Intact raw) :
    extractVerified raw = .ok (extract raw) := by
  rcases intact with quiet | ⟨noise, payload, suffix, quiet, rfl⟩
  · rw [extractVerified_of_quiet quiet, extract_of_quiet quiet]
  · have unstopped := stopMark_notMem_escape payload
    rw [frame_in_noise, extract_of_stopped quiet unstopped,
      extractVerified_of_layout quiet unstopped (Hex.decodeOctet_digits _), unescape_escape,
      if_pos rfl]

end Packet

namespace Session

/-- Verifying silences a reply or leaves it as it is. -/
theorem said_verified (raw : Bytes) : said true raw = [] ∨ said true raw = said false raw := by
  cases judged : Packet.extractVerified raw with
  | error cause =>
      left
      simp [said, judged]
  | ok body =>
      right
      simp [said, judged, Packet.extract_of_verified judged]

theorem said_of_intact {raw : Bytes} (intact : Packet.Intact raw) (verify : Bool) :
    said verify raw = Packet.extract raw := by
  cases verify with
  | false => rfl
  | true => simp [said, intact.extractVerified]

end Session

namespace Traffic

/-- Intact replies count the same, verified or not. -/
theorem tally_of_intact {exchanges : List Exchange}
    (intact : ∀ raw ∈ exchanges.filterMap Exchange.taken?, Packet.Intact raw) (verify : Bool) :
    tally verify exchanges = tally false exchanges := by
  have received : (exchanges.filterMap Exchange.taken?).countP (Session.said verify · ≠ []) =
      (exchanges.filterMap Exchange.taken?).countP (Session.said false · ≠ []) := by
    apply List.countP_congr
    intro raw membership
    rw [Session.said_of_intact (intact raw membership) verify]
    rfl
  rw [tally_eq_counted, tally_eq_counted, counted, received]
  rfl

end Traffic

/-- The same settings, but for whether replies are verified. -/
def Settings.verifying (settings : Settings) (verify : Bool) : Settings :=
  { settings with verifyChecksums := verify }

namespace Handshake

variable {settings : Settings} {replies : List Bytes}

/-! ## Traces side by side -/

@[simp]
theorem took_verifying (verify : Bool) (index : Nat) :
    took (settings.verifying verify) replies index = took settings replies index := rfl

@[simp]
theorem divider?_verifying (verify : Bool) :
    (settings.verifying verify).divider? = settings.divider? := rfl

theorem hears_verifying (verify : Bool) (index : Nat) :
    hears (settings.verifying verify) replies index =
      Session.said verify (window settings replies index) :=
  (said_window (settings.verifying verify) replies index).symm

theorem confirmation_congr {verify other : Bool} {index : Nat}
    (agree : hears (settings.verifying verify) replies index =
      hears (settings.verifying other) replies index) :
    confirmation (settings.verifying verify) replies index =
      confirmation (settings.verifying other) replies index := by
  rw [confirmation, confirmation, agree]
  rfl

theorem judged_congr {verify other : Bool} {index : Nat} {divider : Option UInt32}
    {traffic : Traffic}
    (agree : hears (settings.verifying verify) replies index =
      hears (settings.verifying other) replies index) :
    judged (settings.verifying verify) replies index divider traffic =
      judged (settings.verifying other) replies index divider traffic := by
  rw [judged, judged, agree]

/-- Two runs that hear the same in every window of one of them are the same. -/
theorem trace_congr {verify other : Bool}
    (agree : ∀ index, took settings replies index ∈ trace (settings.verifying verify) replies →
      hears (settings.verifying verify) replies index =
        hears (settings.verifying other) replies index) :
    trace (settings.verifying verify) replies = trace (settings.verifying other) replies ∧
      ∀ traffic, verdict (settings.verifying verify) replies traffic =
        verdict (settings.verifying other) replies traffic := by
  have query := agree 1 (by simp [trace, inquiry])
  -- The query settles which windows are left, and whether the divider goes out between them.
  by_cases silent : hears (settings.verifying verify) replies 1 = []
  · have last := agree 2 (by simp [trace, inquiry, confirmation, silent])
    have alsoSilent := query.symm.trans silent
    refine ⟨?_, fun traffic => ?_⟩
    · rw [trace, trace, inquiry, inquiry, if_pos silent, if_pos alsoSilent,
        confirmation_congr last]
      rfl
    · rw [verdict, verdict, if_pos silent, if_pos alsoSilent, judged_congr last]
  · have alsoAnswered : hears (settings.verifying other) replies 1 ≠ [] := by
      rw [← query]
      exact silent
    simp only [trace, inquiry, verdict, if_neg silent, if_neg alsoAnswered, divider?_verifying]
    cases reachable : settings.divider? with
    | none => exact ⟨rfl, fun _ => rfl⟩
    | some divider =>
        have last := agree 3 (by simp [trace, inquiry, confirmation, silent, reachable])
        refine ⟨?_, fun traffic => ?_⟩
        · rw [confirmation_congr last]
          rfl
        · exact congrArg Except.ok (judged_congr last)

/-- All calls up to the acknowledgement of the answer to the query. -/
def throughAnswer (settings : Settings) (replies : List Bytes) : List Exchange :=
  greeting settings replies ++
    [wrote (Bytes.ascii "$qSupported#37"), took settings replies 1, wrote (Bytes.ascii "+")]

theorem trace_of_answered {divider : UInt32} (answered : hears settings replies 1 ≠ [])
    (reachable : settings.divider? = some divider) :
    trace settings replies =
      throughAnswer settings replies ++
        [wrote (dividerPacket settings divider), took settings replies 2] ++
        confirmation settings replies 3 := by
  simp [trace, inquiry, throughAnswer, answered, reachable]

/-- The speed change is reported only behind an answer to the query. -/
theorem answered_of_sent {traffic : Traffic} {report : Report}
    (reported : verdict settings replies traffic = .ok report)
    (sent : report.speedChangeSent = true) :
    hears settings replies 1 ≠ [] ∧ ∃ divider, settings.divider? = some divider ∧
      report = judged settings replies 3 (some divider) traffic := by
  by_cases silent : hears settings replies 1 = []
  · rw [verdict, if_pos silent] at reported
    cases reported
    cases sent
  · refine ⟨silent, ?_⟩
    rw [verdict, if_neg silent] at reported
    cases reachable : settings.divider? with
    | none =>
        rw [reachable] at reported
        cases reported
    | some divider =>
        rw [reachable] at reported
        cases reported
        exact ⟨divider, rfl, rfl⟩

/-! ## Runs side by side -/

/-- A run with replies verified or not, in which no call fails. -/
def runVerifying (settings : Settings) (replies : List Bytes) (verify : Bool) :
    Run Script (Except HandshakeError Report × Handshake) :=
  Dialogue.run (run { settings := settings.verifying verify }) ({ replies } : Script)

theorem runVerifying_follows (settings : Settings) (replies : List Bytes) (verify : Bool) :
    let ended := runVerifying settings replies verify
    let expected := trace (settings.verifying verify) replies
    ended.transcript.calls = expected ∧
      ended.value.1 = verdict (settings.verifying verify) replies
        (Traffic.tally verify expected) := by
  intro ended expected
  have course : Runs { settings := settings.verifying verify } ended.transcript.calls
      ended.value.1 ended.value.2 := runs_run _ _
  have served : Served replies ended.transcript.calls :=
    @Script.served_of_answered { replies } _ (Dialogue.answered_run _ _)
  obtain ⟨made, returned⟩ := course.served_new served
  have kept := course.keeps (configured_new _) (unopened_new _)
  have books := kept.books fun cause => served.error_notMem _ cause
  refine ⟨made, ?_⟩
  rw [returned, books, made]
  exact congrArg (verdict (settings.verifying verify) replies) (Traffic.empty_add _)

/-- Replies that are intact in one of the two runs make them the same. -/
theorem runVerifying_of_intact {verify : Bool}
    (intact : ∀ raw ∈ (runVerifying settings replies verify).transcript.calls.filterMap
      Exchange.taken?, Packet.Intact raw) (other : Bool) :
    (runVerifying settings replies verify).transcript.calls =
        (runVerifying settings replies other).transcript.calls ∧
      (runVerifying settings replies verify).value.1 =
        (runVerifying settings replies other).value.1 := by
  obtain ⟨made, returned⟩ := runVerifying_follows settings replies verify
  obtain ⟨alsoMade, alsoReturned⟩ := runVerifying_follows settings replies other
  rw [made] at intact
  have agree : ∀ index, took settings replies index ∈ trace (settings.verifying verify) replies →
      hears (settings.verifying verify) replies index =
        hears (settings.verifying other) replies index := by
    intro index taken
    have delivered := intact _ (List.mem_filterMap.mpr ⟨_, taken, rfl⟩)
    rw [hears_verifying, hears_verifying, Session.said_of_intact delivered,
      Session.said_of_intact delivered]
  obtain ⟨sameTrace, sameVerdict⟩ := trace_congr agree
  constructor
  · rw [made, alsoMade, sameTrace]
  · rw [returned, alsoReturned, ← sameTrace, sameVerdict, Traffic.tally_of_intact intact verify,
      Traffic.tally_of_intact intact other]

/-- Verifying replies silences some windows and changes no other.  It makes no difference to a run
whose windows are all intact.  And if it reports the speed change, so does the run that trusts its
replies, with the same divider, and up to the window behind the divider both make the same calls. -/
theorem verifying_refines_trusting (settings : Settings) (replies : List Bytes) :
    let strict := runVerifying settings replies true
    let lax := runVerifying settings replies false
    (∀ raw, Session.said true raw = [] ∨ Session.said true raw = Session.said false raw) ∧
    (∀ verify, (∀ raw ∈ (runVerifying settings replies verify).transcript.calls.filterMap
        Exchange.taken?, Packet.Intact raw) →
      strict.transcript.events = lax.transcript.events ∧ strict.value.1 = lax.value.1) ∧
    ∀ report, strict.value.1 = .ok report → report.speedChangeSent = true →
      ∃ laxReport divider shared limit strictRest laxRest,
        lax.value.1 = .ok laxReport ∧ laxReport.speedChangeSent = true ∧
        report.divider = some divider ∧ laxReport.divider = some divider ∧
        let packet :=
          Packet.frame (Command.setDivider settings.target.baudRegister divider).payload
        strict.transcript.events = shared ++ [.write packet, .read limit] ++ strictRest ∧
        lax.transcript.events = shared ++ [.write packet, .read limit] ++ laxRest := by
  intro strict lax
  refine ⟨Session.said_verified, ?_, ?_⟩
  · intro verify intact
    obtain ⟨strictCalls, strictValue⟩ := runVerifying_of_intact intact true
    obtain ⟨laxCalls, laxValue⟩ := runVerifying_of_intact intact false
    constructor
    · rw [Transcript.events_eq, Transcript.events_eq, ← strictCalls, laxCalls]
    · exact strictValue.symm.trans laxValue
  · intro report reported sent
    obtain ⟨strictMade, strictReturned⟩ := runVerifying_follows settings replies true
    obtain ⟨laxMade, laxReturned⟩ := runVerifying_follows settings replies false
    rw [strictReturned] at reported
    obtain ⟨answered, divider, reachable, rfl⟩ := answered_of_sent reported sent
    rw [divider?_verifying] at reachable
    -- What the strict run heard is what the lax one hears, since it was not silence.
    have same : hears (settings.verifying true) replies 1 =
        hears (settings.verifying false) replies 1 := by
      rw [hears_verifying] at answered
      rw [hears_verifying, hears_verifying]
      exact (Session.said_verified (window settings replies 1)).resolve_left answered
    have alsoAnswered : hears (settings.verifying false) replies 1 ≠ [] := same ▸ answered
    rw [trace_of_answered answered reachable, ← packet_setDivider] at strictMade
    rw [trace_of_answered alsoAnswered reachable, ← packet_setDivider] at laxMade
    let laxTraffic := Traffic.tally false (trace (settings.verifying false) replies)
    let rest (verify : Bool) :=
      (confirmation (settings.verifying verify) replies 3).filterMap Exchange.succeeded?
    refine ⟨judged (settings.verifying false) replies 3 (some divider) laxTraffic, divider,
      (throughAnswer settings replies).filterMap Exchange.succeeded?, settings.line.maxResponse,
      rest true, rest false, ?_, rfl, rfl, rfl, ?_, ?_⟩
    · rw [laxReturned, verdict, if_neg alsoAnswered, divider?_verifying, reachable]
    · rw [Transcript.events_eq, strictMade, List.filterMap_append, List.filterMap_append]
      rfl
    · rw [Transcript.events_eq, laxMade, List.filterMap_append, List.filterMap_append]
      rfl

/-- Noise around a packet and noise without one make no difference; a wrong trailer in the last
window does, but only behind the divider. -/
theorem verifying_refines_trusting_spoiled :
    let settings : Settings := {}
    let intactReplies : List Bytes :=
      [[], Bytes.ascii "+#$OK#9a$", Bytes.ascii "no packet#00", Packet.frame [0x24, 0x7D]]
    let spoiledReplies : List Bytes :=
      [[], Bytes.ascii "$OK#9a", Bytes.ascii "$OK#00", Bytes.ascii "$OK#00"]
    let strict := runVerifying settings spoiledReplies true
    let lax := runVerifying settings spoiledReplies false
    ((∀ raw ∈ (runVerifying settings intactReplies true).transcript.calls.filterMap
        Exchange.taken?, Packet.Intact raw) ∧
      (runVerifying settings intactReplies true).value.1 =
        (runVerifying settings intactReplies false).value.1) ∧
    ∃ report laxReport divider shared limit strictRest laxRest,
      strict.value.1 = .ok report ∧ report.speedChangeSent = true ∧ strict.value.1 ≠ lax.value.1 ∧
      lax.value.1 = .ok laxReport ∧ laxReport.divider = some divider ∧
      let packet := Packet.frame (Command.setDivider 0x20215068 divider).payload
      strict.transcript.events = shared ++ [.write packet, .read limit] ++ strictRest ∧
      lax.transcript.events = shared ++ [.write packet, .read limit] ++ laxRest := by
  intro settings intactReplies spoiledReplies strict lax
  have intact : ∀ raw ∈ (runVerifying settings intactReplies true).transcript.calls.filterMap
      Exchange.taken?, Packet.Intact raw := by
    have windows : (runVerifying settings intactReplies true).transcript.calls.filterMap
        Exchange.taken? = intactReplies := by decide +kernel
    rw [windows]
    intro raw membership
    simp only [intactReplies, List.mem_cons, List.not_mem_nil, or_false] at membership
    rcases membership with rfl | rfl | rfl | rfl
    · exact .inl (by decide)
    · exact .inr ⟨Bytes.ascii "+#", Bytes.ascii "OK", Bytes.ascii "$", by decide, by decide⟩
    · exact .inl (by decide)
    · exact .inr ⟨[], [0x24, 0x7D], [], by decide, by decide⟩
  obtain ⟨-, same, -⟩ := verifying_refines_trusting settings intactReplies
  obtain ⟨-, -, ahead⟩ := verifying_refines_trusting settings spoiledReplies
  let report : Report :=
    { outcome := .noResponse, divider := some 33, speedChangeSent := true
      traffic :=
        { packetsSent := 4, packetsReceived := 1, acksSent := 3, bytesSent := 81
          bytesReceived := 18 } }
  have reported : strict.value.1 = .ok report := by decide +kernel
  obtain ⟨laxReport, divider, shared, limit, strictRest, laxRest, laxReported, -, -, given, made,
    alsoMade⟩ := ahead report reported rfl
  exact ⟨⟨intact, (same true intact).2⟩, report, laxReport, divider, shared, limit, strictRest,
    laxRest, reported, rfl, by decide +kernel, laxReported, given, made, alsoMade⟩

end Handshake

end BaudSwitch
