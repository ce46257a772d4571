import BaudSwitch.Proofs.Handshake.Journal
import BaudSwitch.Proofs.Text.Printable

/-!
# The journal as a transcript of the line

Whatever is handed to the port for writing, and whatever a window brought, stands in the journal in
a rendering that can be read back, in the order in which it crossed the line.  A write that fails
is told like one that succeeds, a read that fails is not told, and a reply is told before it is
judged.  So the journal alone tells what crossed the line.
-/

namespace BaudSwitch

/-- Octets on the line: a write that was tried, or the window of a read that succeeded. -/
inductive Crossing where
  | sent (bytes : Bytes)
  | heard (raw : Bytes)
  deriving DecidableEq, Repr

namespace Crossing

def notice : Crossing → Notice
  | .sent bytes => .sending bytes
  | .heard raw => .received raw

def message : Crossing → String
  | .sent bytes => "Tx: " ++ Printable.text bytes
  | .heard raw => "Rx: " ++ Printable.text raw

/-- What a message of the journal says that crossed the line. -/
def read? : List Char → Option Crossing
  | 'T' :: 'x' :: ':' :: ' ' :: rendering => (Printable.read? rendering).map sent
  | 'R' :: 'x' :: ':' :: ' ' :: rendering => (Printable.read? rendering).map heard
  | _ => none

/-- The message begins as those do that tell of a crossing. -/
def Marks (message : String) : Prop :=
  "Tx: ".toList <+: message.toList ∨ "Rx: ".toList <+: message.toList

instance : DecidablePred Marks :=
  fun _ => inferInstanceAs (Decidable (_ ∨ _))

end Crossing

/-- What crossed the line in a call. -/
def Exchange.crossing? : Exchange → Option Crossing
  | (.write bytes, _) => some (.sent bytes)
  | (.read _, .ok raw) => some (.heard raw)
  | _ => none

namespace Transcript

/-- What crossed the line in a run, in order. -/
def crossings (transcript : Transcript) : List Crossing :=
  transcript.calls.filterMap Exchange.crossing?

/-- The messages of the journal, kept at the level of single packets, that are marked as telling of
octets on the line. -/
def echoes (transcript : Transcript) : List String :=
  ((transcript.journal .debug).map Notice.message).filter (Crossing.Marks ·)

end Transcript

/-! ## Messages -/

namespace Crossing

theorem toList_message (crossing : Crossing) :
    crossing.message.toList =
      match crossing with
      | .sent bytes => 'T' :: 'x' :: ':' :: ' ' :: Printable.chars bytes
      | .heard raw => 'R' :: 'x' :: ':' :: ' ' :: Printable.chars raw := by
  cases crossing <;> simp [message, Printable.text]

/-- Every message is read back. -/
theorem read?_message (crossing : Crossing) : read? crossing.message.toList = some crossing := by
  rw [toList_message]
  cases crossing <;> simp [read?, Printable.read?_chars]

theorem message_injective : Function.Injective message := by
  intro first second same
  apply Option.some.inj
  rw [← read?_message first, same, read?_message]

theorem marks_message (crossing : Crossing) : Marks crossing.message := by
  cases crossing with
  | sent bytes => exact .inl ⟨_, String.toList_append.symm⟩
  | heard raw => exact .inr ⟨_, String.toList_append.symm⟩

theorem shows_message (crossing : Crossing) :
    ∀ character ∈ crossing.message.toList, Printable.Shows character := by
  intro character inside
  cases crossing <;>
  · rw [message, String.toList_append, List.mem_append] at inside
    rcases inside with mark | rendering
    · exact Printable.shows_of_all (by decide) mark
    · exact Printable.shows_of_mem_text rendering

/-- A message that is no crossing, however it goes on. -/
def Unmarked (message : String) : Prop :=
  4 ≤ message.toList.length ∧ ¬ Marks message

instance : DecidablePred Unmarked :=
  fun _ => inferInstanceAs (Decidable (_ ∧ _))

theorem Unmarked.append {beginning : String} (unmarked : Unmarked beginning) (rest : String) :
    Unmarked (beginning ++ rest) := by
  obtain ⟨long, other⟩ := unmarked
  have begins := List.prefix_append beginning.toList rest.toList
  rw [Unmarked, Marks, String.toList_append]
  refine ⟨Nat.le_trans long begins.length_le, ?_⟩
  rintro (sent | heard)
  · exact other (.inl (List.prefix_of_prefix_length_le sent begins long))
  · exact other (.inr (List.prefix_of_prefix_length_le heard begins long))

theorem unmarked_name (stage : Stage) : Unmarked stage.name := by
  cases stage with
  | done outcome => exact (Unmarked.append (by decide) _).append _
  | _ => decide

/-- Nothing else in the journal looks like a crossing. -/
theorem unmarked_of_aside {notice : Notice} (aside : notice.Aside) : Unmarked notice.message := by
  cases notice with
  | sending | received | dividerSet | rateKept | totals => cases aside
  | closed | requesting | discarding | console => exact .append (by decide) _
  | opening | opened | unanswered | setting | reopening =>
      exact (Unmarked.append (by decide) _).append _
  | sessionEnded => exact ((Unmarked.append (by decide) _).append _).append _
  | advanced before after => exact ((unmarked_name before).append _).append _

end Crossing

/-! ## Transcripts -/

namespace Transcript

theorem journal_noted (kept : Level) (notice : Notice) (rest : Transcript) :
    journal kept (.noted notice :: rest) =
      if kept.shows notice.level then notice :: journal kept rest else journal kept rest := by
  cases shown : kept.shows notice.level <;> simp [journal, shown]

theorem echoes_aside {notice : Notice} (aside : notice.Aside) (rest : Transcript) :
    echoes (.noted notice :: rest) = echoes rest := by
  have unmarked : ¬ Crossing.Marks notice.message := (Crossing.unmarked_of_aside aside).2
  rw [echoes, journal_noted]
  split
  · simp [unmarked, echoes]
  · rfl

theorem echoes_asides {notices : List Notice} (asides : ∀ notice ∈ notices, notice.Aside)
    (rest : Transcript) : echoes (notices.map .noted ++ rest) = echoes rest := by
  induction notices with
  | nil => rfl
  | cons notice notices inductionHypothesis =>
      obtain ⟨aside, others⟩ := List.forall_mem_cons.mp asides
      exact (echoes_aside aside _).trans (inductionHypothesis others)

theorem echoes_crossing (crossing : Crossing) (rest : Transcript) :
    echoes (.noted crossing.notice :: rest) = crossing.message :: echoes rest := by
  have shown : Level.debug.shows crossing.notice.level = true := by cases crossing <;> rfl
  have worded : crossing.notice.message = crossing.message := by cases crossing <;> rfl
  rw [echoes, journal_noted, if_pos shown, List.map_cons, worded, List.filter_cons,
    if_pos (decide_eq_true crossing.marks_message), echoes]

/-- A faithful transcript has, in its journal, the octets on the line in their order. -/
theorem Faithful.echoes_eq {transcript : Transcript} (faithful : transcript.Faithful) :
    transcript.echoes = transcript.crossings.map Crossing.message := by
  induction faithful with
  | nil => rfl
  | noted aside onward inductionHypothesis =>
      exact (echoes_aside aside _).trans inductionHypothesis
  | paused onward inductionHypothesis => exact inductionHypothesis
  | @wrote bytes answer rest onward inductionHypothesis =>
      have told : echoes (.noted (.sending bytes) :: .called (.write bytes) answer :: rest) =
          Crossing.message (.sent bytes) :: echoes rest := echoes_crossing (.sent bytes) _
      rw [told, inductionHypothesis]
      rfl
  | @heard limit raw rest notices asides onward inductionHypothesis =>
      have told : echoes (notices.map .noted ++ .noted (.received raw) :: rest) =
          Crossing.message (.heard raw) :: echoes rest :=
        (echoes_asides asides _).trans (echoes_crossing (.heard raw) rest)
      have crossed : crossings (.called (.read limit) (.ok raw) ::
          (notices.map .noted ++ .noted (.received raw) :: rest)) =
          .heard raw :: crossings rest := by
        simp only [crossings, calls_called, calls_map_noted_append, calls_noted]
        rfl
      rw [crossed, List.map_cons, ← inductionHypothesis]
      exact told
  | lost onward inductionHypothesis => exact inductionHypothesis
  | @managed request answer rest managing onward inductionHypothesis =>
      cases request with
      | connect | close => exact inductionHypothesis
      | write | read => rcases managing with kind | kind <;> cases kind

end Transcript

/-! ## Errands -/

namespace Session

/-- What can be done with a session, which comes and goes. -/
inductive Act where
  | connect (options : Options)
  | operation (operation : Operation)
  | close
  deriving DecidableEq, Repr

/-- Do one thing with the session that is open, if there is one. -/
def act : Act → Option Session → Dialogue (Option Session)
  | .connect options, _ => do
      match ← connect options with
      | .ok session => return some session
      | .error _ => return none
  | .operation operation, some session => do
      let (_, after) ← operation.work session
      return some after
  | .close, some session => do
      let _ ← session.close
      return none
  | _, none => return none

/-- Do one thing after another, whatever comes of each. -/
def actInTurn : List Act → Option Session → Dialogue (Option Session)
  | [], open? => return open?
  | first :: later, open? => do
      let after ← act first open?
      actInTurn later after

theorem journals_act (first : Act) (open? : Option Session) : (act first open?).Journals := by
  cases first with
  | connect options =>
      refine (journals_connect options).bind fun opened => ?_
      cases opened <;> exact .done _
  | operation operation =>
      cases open? with
      | none => exact .done _
      | some session => exact (journals_operation operation session).bind fun _ => .done _
  | close =>
      cases open? with
      | none => exact .done _
      | some session => exact (journals_close session).bind fun _ => .done _

theorem journals_actInTurn (acts : List Act) (open? : Option Session) :
    (actInTurn acts open?).Journals := by
  induction acts generalizing open? with
  | nil => exact .done _
  | cons first later inductionHypothesis =>
      exact (journals_act first open?).bind inductionHypothesis

end Session

/-- What can be done on a port: work with sessions, beginning with one that is open already or with
none, or steps of a handshake and a run behind them. -/
inductive Errand where
  | session (acts : List Session.Act) (open? : Option Session)
  | handshake (handshake : Handshake) (steps : Nat)

namespace Errand

def dialogue : Errand → Dialogue Unit
  | .session acts open? => do
      let _ ← Session.actInTurn acts open?
  | .handshake begun steps => do
      let (_, after) ← Handshake.attempts steps begun
      let _ ← Handshake.run after

/-- Do one errand after another on the same port. -/
def inTurn : List Errand → Dialogue Unit
  | [] => return
  | errand :: later => do
      errand.dialogue
      inTurn later

theorem journals_dialogue (errand : Errand) : errand.dialogue.Journals := by
  cases errand with
  | session acts open? => exact (Session.journals_actInTurn acts open?).bind fun _ => .done _
  | handshake begun steps =>
      exact (Handshake.journals_attempts steps begun).bind fun tried =>
        (Handshake.journals_run tried.2).bind fun _ => .done _

theorem journals_inTurn (errands : List Errand) : (inTurn errands).Journals := by
  induction errands with
  | nil => exact .done _
  | cons errand later inductionHypothesis =>
      exact errand.journals_dialogue.bind fun _ => inductionHypothesis

end Errand

/-- On every port that keeps to itself, as scripts and terminals do, the messages of the journal
that tell of octets on the line are those octets, in the order in which they were handed to the
port or came from it, in a rendering that is read back, on one line and of characters that show.
So equal messages, of any two runs, tell of equal octets. -/
theorem journal_transcribes_line :
    Reticent Script ∧ Reticent Terminal ∧
    ∀ (Port OtherPort : Type) [Answering Port] [Answering OtherPort], Reticent Port →
      Reticent OtherPort → ∀ (errands others : List Errand) (port : Port) (otherPort : OtherPort),
      let transcript := ((Errand.inTurn errands).run port).transcript
      let other := ((Errand.inTurn others).run otherPort).transcript
      transcript.echoes = transcript.crossings.map Crossing.message ∧
        transcript.echoes.map (Crossing.read? ·.toList) = transcript.crossings.map some ∧
        (∀ message ∈ transcript.echoes, Screen.text message = message ∧
          ∀ character ∈ message.toList, ' ' ≤ character ∧ character ≤ '~') ∧
        (transcript.echoes = other.echoes → transcript.crossings = other.crossings) := by
  refine ⟨reticent_script, reticent_terminal, ?_⟩
  intro Port OtherPort _ _ reticent otherReticent errands others port otherPort transcript other
  have told : transcript.echoes = transcript.crossings.map Crossing.message :=
    ((Errand.journals_inTurn errands).faithful_run reticent port).echoes_eq
  have otherTold : other.echoes = other.crossings.map Crossing.message :=
    ((Errand.journals_inTurn others).faithful_run otherReticent otherPort).echoes_eq
  refine ⟨told, ?_, ?_, ?_⟩
  · rw [told, List.map_map]
    exact List.map_congr_left fun crossing _ => crossing.read?_message
  · intro message inside
    rw [told, List.mem_map] at inside
    obtain ⟨crossing, -, rfl⟩ := inside
    exact ⟨Screen.text_of_shows crossing.shows_message, crossing.shows_message⟩
  · intro same
    rw [told, otherTold] at same
    exact List.map_injective_iff.mpr Crossing.message_injective same

/-- A request whose reply has a backslash, a quote and octets that do not show, and the same in two
halves. The acknowledgement fails in the one run and goes out in the other, and is told in both. -/
theorem journal_transcribes_line_escaped :
    let options : Session.Options :=
      { port := "/dev/ttyUSB0", baud := 115200, window := 200, maxResponse := 1468
        verifyChecksums := true }
    let raw : Bytes := [0x5C, 0x22, 0x0D, 0xFF, 0x24]
    let failing : Script :=
      { replies := [raw]
        fault := fun kind before =>
          if kind = .write ∧ before = 1 then some (.io "unplugged") else none }
    let sound : Script := { replies := [raw] }
    let whole : List Session.Act :=
      [.connect options, .operation (.request .querySupported), .operation .acknowledge, .close]
    let halves : List Session.Act :=
      [.connect options, .operation (.send .querySupported), .operation .receive,
        .operation .acknowledge]
    let transcript := ((Errand.inTurn [.session whole none]).run failing).transcript
    let other := ((Errand.inTurn [.session halves none]).run sound).transcript
    transcript.echoes = ["Tx: $qSupported#37", "Rx: \\\\\\\"\\r\\xff$", "Tx: +"] ∧
      transcript.echoes = other.echoes ∧
      transcript.crossings = other.crossings ∧
      transcript.echoes.map (Crossing.read? ·.toList) =
        [some (.sent (Bytes.ascii "$qSupported#37")), some (.heard raw), some (.sent [0x2B])] := by
  intro options raw failing sound whole halves transcript other
  have same : transcript.echoes = other.echoes := by decide +kernel
  have crossed : transcript.crossings =
      [.sent (Bytes.ascii "$qSupported#37"), .heard raw, .sent [0x2B]] := by decide +kernel
  obtain ⟨scripts, -, general⟩ := journal_transcribes_line
  obtain ⟨-, read, -, equal⟩ :=
    general Script Script scripts scripts [.session whole none] [.session halves none] failing sound
  refine ⟨by decide +kernel, same, equal same, read.trans ?_⟩
  rw [crossed]
  rfl

end BaudSwitch
