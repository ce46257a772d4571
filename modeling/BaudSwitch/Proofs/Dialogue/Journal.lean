import BaudSwitch.Port.Terminal
import BaudSwitch.Proofs.Port.Script

/-!
# What a dialogue tells the journal

A dialogue keeps its journal when it tells of each write right before it, and of each window right
after it was read.  What else it tells of are things that do not cross the line.  Dialogues that
keep their journals can be put one after the other, and a run of one tells nothing else, as long
as the port only tells of being opened and closed.
-/

namespace BaudSwitch

namespace Notice

/-- A notice of the port itself. -/
def OfPort : Notice → Prop
  | .opened .. | .closed _ => True
  | _ => False

/-- A notice that comes up before the handshake is over, and is about no octets on the line. -/
def Aside : Notice → Prop
  | .sending _ | .received _ | .dividerSet _ | .rateKept _ | .totals _ => False
  | _ => True

/-- A notice of octets that are written or were read. -/
def OnLine : Notice → Prop
  | .sending _ | .received _ => True
  | _ => False

theorem OfPort.aside {notice : Notice} (ofPort : notice.OfPort) : notice.Aside := by
  cases notice <;> trivial

end Notice

/-- Ports that tell of nothing but being opened and closed. -/
def Reticent (Port : Type) [Answering Port] : Prop :=
  ∀ (port : Port) (call : Call), ∀ notice ∈ (Answering.respond port call).notices, notice.OfPort

theorem reticent_script : Reticent Script := by
  intro script call notice told
  change notice ∈ (script.respond call).notices at told
  rw [Script.respond_eq] at told
  split at told <;> cases told

theorem reticent_terminal : Reticent Terminal := by
  intro terminal call notice told
  cases call with
  | connect port baud window =>
      change notice ∈ (terminal.respond (.connect port baud window)).notices at told
      simp only [Terminal.respond] at told
      cases refused : terminal.refusal port with
      | some reason => simp [refused] at told
      | none =>
          rw [refused] at told
          rw [List.mem_singleton.mp told]
          trivial
  | close =>
      obtain ⟨held, -, rfl⟩ := Option.map_eq_some_iff.mp (Option.mem_toList.mp told)
      trivial
  | _ => cases told

namespace Dialogue

variable {First Second Value : Type}

/-- The dialogue tells of what it writes and of what it has read, and else only by the way. -/
inductive Journals : Dialogue Value → Prop where
  | done (value : Value) : Journals (.done value)
  | note {notice next} (aside : notice.Aside) (onward : Journals next) :
      Journals (.note notice next)
  | pause {milliseconds next} (onward : Journals next) : Journals (.pause milliseconds next)
  | write {bytes next} (onward : ∀ answer, Journals (next answer)) :
      Journals (.note (.sending bytes) (.call (.write bytes) next))
  | read {limit next} (heard : Bytes → Dialogue Value)
      (told : ∀ raw, next (.ok raw) = .note (.received raw) (heard raw))
      (onward : ∀ raw, Journals (heard raw)) (lost : ∀ cause, Journals (next (.error cause))) :
      Journals (.call (.read limit) next)
  | manage {request next} (managing : request.kind = .connect ∨ request.kind = .close)
      (onward : ∀ answer, Journals (next answer)) : Journals (.call request next)

theorem Journals.bind {dialogue : Dialogue First} {andThen : First → Dialogue Second}
    (first : dialogue.Journals) (second : ∀ value, (andThen value).Journals) :
    (dialogue.bind andThen).Journals := by
  induction first with
  | done value => exact second value
  | note aside onward inductionHypothesis => exact .note aside inductionHypothesis
  | pause onward inductionHypothesis => exact .pause inductionHypothesis
  | write onward inductionHypothesis => exact .write inductionHypothesis
  | read heard told onward lost heardHypothesis lostHypothesis =>
      refine .read (fun raw => (heard raw).bind andThen) (fun raw => ?_) heardHypothesis
        lostHypothesis
      exact congrArg (Dialogue.bind · andThen) (told raw)
  | manage managing onward inductionHypothesis => exact .manage managing inductionHypothesis

end Dialogue

namespace Transcript

theorem mem_journal_iff {kept : Level} {transcript : Transcript} {notice : Notice} :
    notice ∈ transcript.journal kept ↔
      .noted notice ∈ transcript ∧ kept.shows notice.level = true := by
  rw [journal, List.mem_filterMap]
  constructor
  · rintro ⟨entry, inside, shown⟩
    cases entry with
    | noted other =>
        dsimp only at shown
        split at shown
        next shows =>
          cases shown
          exact ⟨inside, shows⟩
        next => cases shown
    | _ => cases shown
  · rintro ⟨inside, shows⟩
    exact ⟨.noted notice, inside, if_pos shows⟩

/-- What is written is told of right before, and what was read right after, but for what the port
itself has to tell. -/
inductive Faithful : Transcript → Prop where
  | nil : Faithful []
  | noted {notice rest} (aside : notice.Aside) (onward : Faithful rest) :
      Faithful (.noted notice :: rest)
  | paused {milliseconds rest} (onward : Faithful rest) : Faithful (.paused milliseconds :: rest)
  | wrote {bytes answer rest} (onward : Faithful rest) :
      Faithful (.noted (.sending bytes) :: .called (.write bytes) answer :: rest)
  | heard {limit raw rest} {notices : List Notice} (asides : ∀ notice ∈ notices, notice.Aside)
      (onward : Faithful rest) :
      Faithful (.called (.read limit) (.ok raw) ::
        (notices.map .noted ++ .noted (.received raw) :: rest))
  | lost {limit cause rest} (onward : Faithful rest) :
      Faithful (.called (.read limit) (.error cause) :: rest)
  | managed {request answer rest} (managing : request.kind = .connect ∨ request.kind = .close)
      (onward : Faithful rest) : Faithful (.called request answer :: rest)

theorem Faithful.behind {notices : List Notice} (asides : ∀ notice ∈ notices, notice.Aside)
    {rest : Transcript} (onward : Faithful rest) : Faithful (notices.map .noted ++ rest) := by
  induction notices with
  | nil => exact onward
  | cons notice notices inductionHypothesis =>
      obtain ⟨aside, others⟩ := List.forall_mem_cons.mp asides
      exact .noted aside (inductionHypothesis others)

/-- Nothing is told but of octets on the line and by the way. -/
theorem Faithful.told {transcript : Transcript} (faithful : transcript.Faithful) {notice : Notice}
    (noted : .noted notice ∈ transcript) : notice.OnLine ∨ notice.Aside := by
  induction faithful with
  | nil => cases noted
  | noted aside onward inductionHypothesis =>
      rcases List.mem_cons.mp noted with same | later
      · cases same
        exact .inr aside
      · exact inductionHypothesis later
  | wrote onward inductionHypothesis =>
      simp only [List.mem_cons, Entry.noted.injEq, reduceCtorEq, false_or] at noted
      rcases noted with rfl | later
      · exact .inl trivial
      · exact inductionHypothesis later
  | heard asides onward inductionHypothesis =>
      simp only [List.mem_cons, List.mem_append, List.mem_map, Entry.noted.injEq, reduceCtorEq,
        exists_eq_right, false_or] at noted
      rcases noted with beside | rfl | later
      · exact .inr (asides notice beside)
      · exact .inl trivial
      · exact inductionHypothesis later
  | paused onward inductionHypothesis =>
      exact inductionHypothesis (by simpa using noted)
  | lost onward inductionHypothesis =>
      exact inductionHypothesis (by simpa using noted)
  | managed managing onward inductionHypothesis =>
      exact inductionHypothesis (by simpa using noted)

end Transcript

/-- A run of a dialogue that keeps its journal has a faithful transcript. -/
theorem Dialogue.Journals.faithful_run {Value : Type} {dialogue : Dialogue Value}
    (journals : dialogue.Journals) {Port : Type} [Answering Port] (reticent : Reticent Port)
    (port : Port) : (dialogue.run port).transcript.Faithful := by
  have asides : ∀ (port : Port) (call : Call),
      ∀ notice ∈ (Answering.respond port call).notices, notice.Aside :=
    fun port call notice told => (reticent port call notice told).aside
  induction journals generalizing port with
  | done value => exact .nil
  | note aside onward inductionHypothesis => exact .noted aside (inductionHypothesis port)
  | pause onward inductionHypothesis => exact .paused (inductionHypothesis port)
  | write onward inductionHypothesis =>
      exact .wrote (.behind (asides port _) (inductionHypothesis _ _))
  | @read limit next heard told onward lost heardHypothesis lostHypothesis =>
      have beside := asides port (.read limit)
      rw [run]
      generalize Answering.respond port (.read limit) = response at beside ⊢
      obtain ⟨answer, notices, left⟩ := response
      cases answer with
      | error cause => exact .lost (.behind beside (lostHypothesis cause left))
      | ok raw =>
          dsimp only
          rw [told raw]
          exact .heard beside (heardHypothesis raw left)
  | manage managing onward inductionHypothesis =>
      exact .managed managing (.behind (asides port _) (inductionHypothesis _ _))

/-! ## Work -/

namespace Work

variable {Failure State First Second : Type}

/-- The work keeps its journal in every state. -/
def Journals (work : Work Failure State First) : Prop :=
  ∀ state, (work state).Journals

theorem journals_of_done {work : Work Failure State First}
    (done : ∀ state, ∃ ended, work state = .done ended) : Journals work := by
  intro state
  obtain ⟨ended, equal⟩ := done state
  rw [equal]
  exact .done ended

theorem Journals.bind {work : Work Failure State First}
    {andThen : First → Work Failure State Second}
    (first : Journals work) (second : ∀ value, Journals (andThen value)) :
    Journals (work >>= andThen) := by
  intro state
  rw [bind_apply]
  refine (first state).bind ?_
  rintro ⟨_ | value, middle⟩
  · exact .done _
  · exact second value middle

theorem journals_pure (value : First) : Journals (pure value : Work Failure State First) :=
  journals_of_done fun _ => ⟨_, rfl⟩

theorem journals_throw (cause : Failure) : Journals (throw cause : Work Failure State First) :=
  journals_of_done fun _ => ⟨_, rfl⟩

theorem journals_get : Journals (get : Work Failure State State) :=
  journals_of_done fun _ => ⟨_, rfl⟩

theorem journals_modify (change : State → State) :
    Journals (modify change : Work Failure State Unit) :=
  journals_of_done fun _ => ⟨_, rfl⟩

end Work

end BaudSwitch
