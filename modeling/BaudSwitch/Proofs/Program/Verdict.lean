import BaudSwitch.Proofs.Decimal
import BaudSwitch.Proofs.Handshake.Journal
import BaudSwitch.Proofs.Handshake.Verdict
import BaudSwitch.Proofs.Program.Effects
import BaudSwitch.Proofs.Text.Printable

/-!
# What a run tells its operator

A run that gets through its handshake ends with one of two sentences and a good exit status, and
warns of a rate that was kept where no packet went out to the monitor.  A run with a call that
fails says neither sentence.  No line of the journal looks like one of the sentences, and only the
last word on the handshake looks like the warning.
-/

namespace BaudSwitch

/-! ## Lines -/

namespace Notice

theorem toList_line (notice : Notice) :
    notice.line.toList =
      notice.level.name.toList ++ ' ' :: notice.message.toList.flatMap Screen.char := by
  have shown : notice.level.name.toList.flatMap Screen.char = notice.level.name.toList := by
    cases notice.level <;> decide
  have blank : (" " : String).toList = [' '] := rfl
  rw [line, Screen.text, String.toList_ofList, entry]
  simp only [String.toList_append, List.flatMap_append, shown, blank, List.append_assoc]
  rfl

theorem shows_decimal {number : Nat} {character : Char}
    (inside : character ∈ (toString number).toList) : Printable.Shows character := by
  have digits : (toString number).toList = Nat.toDigits 10 number := by simp
  rw [digits] at inside
  obtain ⟨least, most⟩ := Decimal.bounds_of_mem_toDigits inside
  exact ⟨Char.le_trans (by decide) least, Char.le_trans most (by decide)⟩

theorem line_rateKept (baud : UInt32) : (rateKept baud).line =
    s!"WARN No reply at {baud.toNat} baud, speed change was not sent" := by
  have worded : (rateKept baud).entry =
      "WARN No reply at " ++ toString baud.toNat ++ " baud, speed change was not sent" := by
    change "WARN" ++ " " ++ ("No reply at " ++ toString baud.toNat ++ _) = _
    simp only [← String.append_assoc]
    rfl
  rw [line, worded]
  apply Screen.text_of_shows
  intro character inside
  simp only [String.toList_append, List.mem_append] at inside
  rcases inside with (before | number) | behind
  · exact Printable.shows_of_all (by decide) before
  · exact shows_decimal number
  · exact Printable.shows_of_all (by decide) behind

/-- Two characters of a line tell its level. -/
theorem take_line (notice : Notice) :
    notice.line.toList.take 2 = notice.level.name.toList.take 2 := by
  rw [toList_line]
  cases notice.level <;> rfl

theorem level_eq_of_line {first second : Notice} (same : first.line = second.line) :
    first.level = second.level := by
  have initials : first.level.name.toList.take 2 = second.level.name.toList.take 2 := by
    rw [← take_line, same, take_line]
  revert initials
  cases first.level <;> cases second.level <;> decide

/-- No other notice looks like the warning of a rate that was kept. -/
theorem eq_rateKept_of_line {notice : Notice} {baud : UInt32}
    (same : notice.line = (rateKept baud).line) : ∃ other, notice = .rateKept other := by
  have level : notice.level = .warn := level_eq_of_line same
  cases notice with
  | rateKept other => exact ⟨other, rfl⟩
  | discarding cause =>
      -- Both are warnings; their messages part at the first character.
      have drops : (("Discarding reply: " ++ cause.message).toList.flatMap Screen.char).head? =
          some 'D' := by
        rw [String.toList_append]
        rfl
      have keeps : ((rateKept baud).message.toList.flatMap Screen.char).head? = some 'N' := by
        change (("No reply at " ++ toString baud.toNat ++ _).toList.flatMap Screen.char).head? = _
        rw [String.toList_append, String.toList_append]
        rfl
      have chars := congrArg String.toList same
      rw [toList_line, toList_line] at chars
      have messages := (List.cons.inj (List.append_cancel_left chars)).2
      have heads := congrArg List.head? messages
      rw [keeps] at heads
      cases drops.symm.trans heads
  | _ => cases level

/-- No notice looks like the sentence at the end of a run. -/
theorem line_ne_verdict (notice : Notice) (baud : UInt32) :
    notice.line ≠ s!"Target system responding OK at {baud.toNat} baud" ∧
      notice.line ≠ s!"No response from target system at {baud.toNat} baud" := by
  have begins {text rest : String} (long : 2 ≤ text.toList.length) :
      (text ++ rest).toList.take 2 = text.toList.take 2 := by
    rw [String.toList_append, List.take_append_of_le_length long]
  have initials := notice.take_line
  constructor <;>
  · intro same
    rw [same, String.append_assoc, begins (by decide)] at initials
    revert initials
    cases notice.level <;> decide

end Notice

namespace Program

open CommandLine (Request)

variable {Port : Type} [Answering Port] {arguments : List Bytes} {request : Request}
  {settings : Settings} {world : World Port}

/-! ## The last words of a handshake -/

/-- What the journal says of the speed change in the end. -/
def lastWord (settings : Settings) (report : Report) : Notice :=
  match report.speedChangeSent, report.divider with
  | true, some divider => .dividerSet divider
  | _, _ => .rateKept settings.line.initialBaud

theorem lastWord_cases (settings : Settings) (report : Report) :
    lastWord settings report = .rateKept settings.line.initialBaud ∨
      ∃ divider, lastWord settings report = .dividerSet divider := by
  unfold lastWord
  split
  · exact .inr ⟨_, rfl⟩
  · exact .inl rfl

theorem run_handshake (settings : Settings) (port : Port) :
    (handshake settings).run port =
      let shaken := Dialogue.run (Handshake.run { settings }) port
      match shaken.value.1 with
      | .error cause => ⟨.error cause, shaken.port, shaken.transcript⟩
      | .ok report => ⟨.ok report, shaken.port, shaken.transcript ++
          [.noted (lastWord settings report), .noted (.totals report.traffic)]⟩ := by
  rw [handshake]
  change (Dialogue.bind _ _).run port = _
  rw [Dialogue.run_bind]
  generalize Dialogue.run (Handshake.run { settings }) port = shaken
  obtain ⟨⟨cause | ⟨outcome, divider, sent, traffic⟩, last⟩, left, transcript⟩ := shaken
  · exact congrArg _ (List.append_nil transcript)
  · cases sent <;> cases divider <;> rfl

theorem value_handshake (settings : Settings) (port : Port) :
    ((handshake settings).run port).value =
      (Dialogue.run (Handshake.run { settings }) port).value.1 := by
  rw [run_handshake]
  cases told : (Dialogue.run (Handshake.run { settings }) port).value.1 <;> simp only [told]

theorem calls_handshake (settings : Settings) (port : Port) :
    ((handshake settings).run port).transcript.calls =
      (Dialogue.run (Handshake.run { settings }) port).transcript.calls := by
  rw [run_handshake]
  cases told : (Dialogue.run (Handshake.run { settings }) port).value.1 <;> simp [told]

/-- What a run with its handshake prints, and the status that it exits with. -/
theorem run_conversation (effective : Effective arguments world request settings)
    (quiet : request.printSettings = false) (untold : request.writeTo = none) :
    let talk := (handshake settings).run world.port
    let ended := (run arguments : StateM (World Port) _).run world
    let lines := (talk.transcript.journal (journalLevel settings)).map Notice.line
    let journal := world.output ++ String.join (lines.map (· ++ "\n"))
    ended.2.transcript = world.transcript ++ talk.transcript ∧
      match (Dialogue.run (Handshake.run { settings }) world.port).value.1 with
      | .ok report => ended.1 = 0 ∧
          ended.2.output = journal ++ verdict report.outcome settings.line.targetBaud
      | .error _ => ended.1 = 1 ∧ ended.2.output = journal := by
  intro talk ended lines journal
  have same : ended = _ := run_of_effective effective
  have text : String.join (lines.map (· ++ "\n")) =
      World.journalText (talk.transcript.journal (journalLevel settings)) := by
    rw [World.journalText, List.map_map]
    rfl
  have conversed : (Machine.converse (journalLevel settings) (handshake settings) :
      StateM (World Port) _).run world = (talk.value, { world with
        port := talk.port
        output := journal
        transcript := world.transcript ++ talk.transcript }) := by
    rw [show journal = world.output ++ _ from congrArg (world.output ++ ·) text]
    rfl
  rw [run_carryOut_of_handshake effective.valid quiet untold, conversed, value_handshake] at same
  cases result : (Dialogue.run (Handshake.run { settings }) world.port).value.1 with
  | error cause =>
      rw [same, result]
      exact ⟨rfl, rfl, rfl⟩
  | ok report =>
      rw [same, result]
      exact ⟨rfl, rfl, rfl⟩

/-- The journal warns of a rate that was kept if its last word does, and nowhere else. -/
theorem warns_iff (reticent : Reticent Port) {port : Port} {report : Report}
    (succeeded : (Dialogue.run (Handshake.run { settings }) port).value.1 = .ok report)
    (kept : Level) :
    (Notice.rateKept settings.line.initialBaud).line ∈
        (((handshake settings).run port).transcript.journal kept).map Notice.line ↔
      lastWord settings report = .rateKept settings.line.initialBaud := by
  rw [run_handshake]
  dsimp only
  rw [succeeded]
  dsimp only
  constructor
  · intro warned
    obtain ⟨notice, told, same⟩ := List.mem_map.mp warned
    obtain ⟨other, rfl⟩ := Notice.eq_rateKept_of_line same
    obtain ⟨noted, -⟩ := Transcript.mem_journal_iff.mp told
    rcases List.mem_append.mp noted with during | after
    · have faithful := (Handshake.journals_run { settings }).faithful_run reticent port
      rcases faithful.told during with onLine | aside
      · cases onLine
      · cases aside
    · simp only [List.mem_cons, Entry.noted.injEq, reduceCtorEq, List.not_mem_nil, or_false]
        at after
      rcases lastWord_cases settings report with keeps | ⟨divider, sets⟩
      · exact keeps
      · cases after.trans sets
  · intro last
    apply List.mem_map_of_mem
    rw [Transcript.mem_journal_iff, last]
    exact ⟨by simp, rfl⟩

/-- The last word is a warning just when no packet went out to the monitor. -/
theorem lastWord_eq_rateKept_iff (valid : settings.Valid) {port : Port} {report : Report}
    (succeeded : (Dialogue.run (Handshake.run { settings }) port).value.1 = .ok report) :
    lastWord settings report = .rateKept settings.line.initialBaud ↔
      toldMonitor (Dialogue.run (Handshake.run { settings }) port).transcript.calls = [] := by
  have sound := (Handshake.run_succeeds_iff valid port).mp ⟨report, succeeded⟩
  have course := Handshake.runs_run { settings } port
  have noted : Handshake.Noted settings _ _ := (Handshake.Reaches.new.runs course).noted
  obtain ⟨divider, reachable⟩ := Option.ne_none_iff_exists'.mp
    (Handshake.divider?_ne_none_of_valid valid)
  obtain ⟨rfl, -⟩ := course.finishes succeeded
  have sent := noted.sent_iff sound
  have given := noted.divider
  rw [List.nil_append] at sent
  rw [reachable] at given
  generalize (Dialogue.run (Handshake.run { settings }) port).value.2 = after at sent given ⊢
  cases changed : after.speedChangeSent with
  | true =>
      rw [changed, if_pos rfl] at given
      have last : lastWord settings after.report = .dividerSet divider := by
        simp only [lastWord, Handshake.report, changed, given]
      have other : lastWord settings after.report ≠ .rateKept settings.line.initialBaud := by
        rw [last]
        simp
      exact iff_of_false other (sent.mp changed)
  | false =>
      have last : lastWord settings after.report = .rateKept settings.line.initialBaud := by
        simp only [lastWord, Handshake.report, changed]
      rw [last, eq_self, true_iff]
      by_contra told
      cases changed.symm.trans (sent.mpr told)

/-! ## The sentences at the end -/

/-- The sentence that the last window decides for. -/
theorem verdict_outcomeOf (verify : Bool) (raw : Bytes) (baud : UInt32) :
    verdict (Handshake.outcomeOf verify raw) baud =
      (if Session.said verify raw = [] then
          s!"No response from target system at {baud.toNat} baud"
        else s!"Target system responding OK at {baud.toNat} baud") ++ "\n" := by
  have ending : (" baud\n" : String) = " baud" ++ "\n" := by decide
  unfold Handshake.outcomeOf
  split
  · change "No response from target system at " ++ toString baud.toNat ++ " baud\n" = _
    rw [ending, ← String.append_assoc]
    rfl
  · change "Target system responding OK at " ++ toString baud.toNat ++ " baud\n" = _
    rw [ending, ← String.append_assoc]
    rfl

/-- With settings that a run can work with, and a port that keeps to itself as scripts and terminals
do, a run that is to do its handshake exits well just when the handshake succeeds, which is when no
call fails.  Behind the journal it then says whether the last window said anything, and the journal
warns of a kept rate just when no packet for the monitor was written.  Otherwise it exits badly,
and prints the journal only. -/
theorem output_matches_line :
    Reticent Script ∧ Reticent Terminal ∧
    ∀ (Port : Type) [Answering Port], Reticent Port →
      ∀ (arguments : List Bytes) (world : World Port) (request : Request) (settings : Settings),
      Effective arguments world request settings → request.printSettings = false →
      request.writeTo = none →
      let ended := (run arguments : StateM (World Port) _).run world
      let initial := settings.line.initialBaud.toNat
      let target := settings.line.targetBaud.toNat
      let answered := s!"Target system responding OK at {target} baud"
      let silent := s!"No response from target system at {target} baud"
      let warning := s!"WARN No reply at {initial} baud, speed change was not sent"
      ∃ more, ended.2.transcript = world.transcript ++ more ∧
        let lines := (more.journal (journalLevel settings)).map Notice.line
        let journal := world.output ++ String.join (lines.map (· ++ "\n"))
        (ended.1 = 0 ↔ ∃ report,
          (Dialogue.run (Handshake.run { settings }) world.port).value.1 = .ok report) ∧
        (ended.1 = 0 ↔ ∀ request cause, (request, .error cause) ∉ more.calls) ∧
        (ended.1 = 0 →
          (∃ earlier raw, more.calls.filterMap Exchange.taken? = earlier ++ [raw] ∧
            ended.2.output = journal ++
              (if Session.said settings.verifyChecksums raw = [] then silent else answered) ++
                "\n") ∧
          (warning ∈ lines ↔ ∀ packet ∈ more.writes, ¬ Bytes.ascii "$qRcmd," <+: packet)) ∧
        (ended.1 ≠ 0 → ended.1 = 1 ∧ ended.2.output = journal) ∧
        answered ∉ lines ∧ silent ∉ lines := by
  refine ⟨reticent_script, reticent_terminal, ?_⟩
  intro Port _ reticent arguments world request settings effective quiet untold ended initial target
    answered silent warning
  obtain ⟨grown, concluded⟩ := run_conversation effective quiet untold
  refine ⟨_, grown, ?_⟩
  intro lines journal
  have neither : answered ∉ lines ∧ silent ∉ lines := by
    constructor <;> intro told <;> obtain ⟨notice, -, same⟩ := List.mem_map.mp told
    · exact (notice.line_ne_verdict settings.line.targetBaud).1 same
    · exact (notice.line_ne_verdict settings.line.targetBaud).2 same
  have succeeds := Handshake.run_succeeds_iff effective.valid world.port
  have calls := calls_handshake settings world.port
  cases result : (Dialogue.run (Handshake.run { settings }) world.port).value.1 with
  | error cause =>
      rw [result] at concluded
      have failing : ended.1 ≠ 0 := by
        rw [concluded.1]
        decide
      have unsound : ¬ Sound ((handshake settings).run world.port).transcript.calls := by
        rw [calls]
        intro sound
        obtain ⟨report, succeeded⟩ := succeeds.mpr sound
        cases result.symm.trans succeeded
      exact ⟨iff_of_false failing nofun, iff_of_false failing unsound,
        fun exits => absurd exits failing, fun _ => concluded, neither⟩
  | ok report =>
      rw [result] at concluded
      have sound : Sound ((handshake settings).run world.port).transcript.calls := by
        rw [calls]
        exact succeeds.mp ⟨report, result⟩
      obtain ⟨earlier, raw, taken, decided⟩ :=
        (Handshake.runs_run { settings } world.port).decides (Handshake.configured_new settings)
          (Handshake.unopened_new settings) (fun outcome => nofun) result
      refine ⟨iff_of_true concluded.1 ⟨report, rfl⟩, iff_of_true concluded.1 sound,
        fun _ => ⟨⟨earlier, raw, ?_, ?_⟩, ?_⟩, fun failing => absurd concluded.1 failing, neither⟩
      · rw [calls]
        exact taken
      · rw [concluded.2, decided, verdict_outcomeOf, ← String.append_assoc]
      · have warned := warns_iff reticent result (journalLevel settings)
        rw [Notice.line_rateKept] at warned
        refine warned.trans ((lastWord_eq_rateKept_iff effective.valid result).trans ?_)
        rw [Transcript.writes_eq, calls, toldMonitor, List.filter_eq_nil_iff]
        simp

/-- Replies with a wrong trailer are dropped. The last one has such a trailer, and so the run says
that nothing came back, though it does not warn, as the divider went out. With a second close that
fails, it says nothing. -/
theorem output_matches_line_strict :
    let arguments := ["gdb-baud", "--strict", "-b", "460800"].map Bytes.ascii
    let request : Request := { baud := some 460800, strict := true }
    let settings : Settings := { line := { targetBaud := 460800 }, verifyChecksums := true }
    let answer := Bytes.ascii "$OK#9a"
    let wrong := Bytes.ascii "$OK#00"
    let sound : World Script := { port := { replies := [[], answer, answer, wrong] } }
    let broken : World Script :=
      { port :=
          { replies := []
            fault := fun kind before =>
              if kind = .close ∧ before = 1 then some (.io "unplugged") else none } }
    let silent := "No response from target system at 460800 baud"
    let warning := "WARN No reply at 115200 baud, speed change was not sent"
    let after (world : World Script) := (run arguments : StateM (World Script) _).run world
    let lines (world : World Script) :=
      ((after world).2.transcript.journal (journalLevel settings)).map Notice.line
    let journal (world : World Script) := String.join ((lines world).map (· ++ "\n"))
    Effective arguments sound request settings ∧
      (after sound).1 = 0 ∧
      (after sound).2.output = journal sound ++ silent ++ "\n" ∧
      warning ∉ lines sound ∧
      Effective arguments broken request settings ∧
      (after broken).1 = 1 ∧
      (after broken).2.output = journal broken ∧
      silent ∉ lines broken := by
  intro arguments request settings answer wrong sound broken silent warning after lines journal
  have effective (port : Script) : Effective arguments { port := port } request settings :=
    ⟨by decide +kernel, ⟨{}, rfl, by decide +kernel⟩, by decide +kernel⟩
  have exits : (after sound).1 = 0 := by decide +kernel
  have failing : (after broken).1 ≠ 0 := by decide +kernel
  have windows : (after sound).2.transcript.calls.filterMap Exchange.taken? =
      [[], answer, answer, wrong] := by decide +kernel
  have told : Packet.frame (Command.setDivider 0x20215068 67).payload ∈
      (after sound).2.transcript.writes := by decide +kernel
  have sentence : s!"No response from target system at {settings.line.targetBaud.toNat} baud" =
      silent := by decide +kernel
  have caution :
      s!"WARN No reply at {settings.line.initialBaud.toNat} baud, speed change was not sent" =
        warning := by decide +kernel
  obtain ⟨-, -, general⟩ := output_matches_line
  have conversed (world : World Script) (empty : world.transcript = [])
      {more : Transcript} (grown : (after world).2.transcript = world.transcript ++ more) :
      (after world).2.transcript = more := by
    rw [grown, empty, List.nil_append]
  obtain ⟨more, grown, -, -, concluded, -⟩ :=
    general Script reticent_script arguments sound request settings (effective _) rfl rfl
  obtain ⟨⟨earlier, raw, taken, output⟩, warned⟩ := concluded exits
  obtain rfl := conversed sound rfl grown
  obtain ⟨rest, alsoGrown, -, -, -, failed, -, unsaid⟩ :=
    general Script reticent_script arguments broken request settings (effective _) rfl rfl
  obtain ⟨status, brokenOutput⟩ := failed failing
  have begun (world : World Script) : "" ++ journal world = journal world := String.empty_append
  obtain rfl := conversed broken rfl alsoGrown
  rw [caution] at warned
  rw [sentence] at unsaid
  have last : raw = wrong := by
    have ends := congrArg List.getLast? (taken.symm.trans windows)
    rw [List.getLast?_concat] at ends
    exact Option.some.inj ends
  have nothing : Session.said true wrong = [] := by decide +kernel
  rw [last, if_pos nothing, sentence] at output
  exact ⟨effective _, exits, begun sound ▸ output,
    fun warns => warned.mp warns _ told (by decide +kernel), effective _, status,
    begun broken ▸ brokenOutput, unsaid⟩

end Program

end BaudSwitch
