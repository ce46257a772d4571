import BaudSwitch.Proofs.CommandLine.Lenient
import Mathlib.Data.List.Chain
import Mathlib.Data.List.Flatten
import Mathlib.Data.List.Forall2

/-!
# Reading comes to an end

Whatever a reader says to the arguments, and however often it changes its mind, it is asked only a
bounded number of times.  Before each question but the first one argument went, or lost some of its
octets; the name of the program stays, and the arguments that stay keep their order.
-/

namespace BaudSwitch.CommandLine

/-- One argument is gone, or has lost some of its octets. The name of the program, which stands
first, is not that argument. -/
inductive Reduced (arguments : List Bytes) : List Bytes → Prop where
  | removed {index : Nat} : 0 < index → index < arguments.length →
      Reduced arguments (arguments.eraseIdx index)
  | shortened {index : Nat} {argument shorter : Bytes} : 0 < index →
      arguments[index]? = some argument → shorter.Sublist argument →
      shorter.length < argument.length → Reduced arguments (arguments.set index shorter)

/-! ## What a complaint takes away -/

/-- The same where no name stands first, by the way one gets to the argument. -/
inductive Lessened : List Bytes → List Bytes → Prop where
  | removed {first rest} : Lessened (first :: rest) rest
  | shortened {first shorter rest} : List.Sublist shorter first → shorter.length < first.length →
      Lessened (first :: rest) (shorter :: rest)
  | behind {first rest fewer} : Lessened rest fewer → Lessened (first :: rest) (first :: fewer)

theorem Reduced.behind {arguments fewer : List Bytes} (reduced : Reduced arguments fewer)
    (name : Bytes) : Reduced (name :: arguments) (name :: fewer) := by
  cases reduced with
  | @removed index positive inside =>
      exact @Reduced.removed (name :: arguments) (index + 1) (Nat.succ_pos index)
        (Nat.succ_lt_succ inside)
  | @shortened index argument shorter positive stands sublist fewerOctets =>
      exact @Reduced.shortened (name :: arguments) (index + 1) argument shorter (Nat.succ_pos index)
        stands sublist fewerOctets

theorem Lessened.reduced {arguments fewer : List Bytes} (lessened : Lessened arguments fewer)
    (name : Bytes) : Reduced (name :: arguments) (name :: fewer) := by
  induction lessened generalizing name with
  | @removed first rest =>
      exact @Reduced.removed (name :: first :: rest) 1 Nat.one_pos (by simp)
  | @shortened first shorter rest sublist fewerOctets =>
      exact @Reduced.shortened (name :: first :: rest) 1 first shorter Nat.one_pos rfl sublist
        fewerOctets
  | @behind first rest fewer _ inductionHypothesis => exact (inductionHypothesis first).behind name

instance sublistRefl : Std.Refl (@List.Sublist UInt8) :=
  ⟨List.Sublist.refl⟩

/-- What is left stands in the order it stood in. -/
theorem Lessened.ordered {arguments fewer : List Bytes} (lessened : Lessened arguments fewer) :
    List.SublistForall₂ List.Sublist fewer arguments := by
  induction lessened with
  | removed => exact .cons_right (List.Sublist.refl _).sublistForall₂
  | shortened sublist => exact .cons sublist (List.Sublist.refl _).sublistForall₂
  | behind _ inductionHypothesis => exact .cons (List.Sublist.refl _) inductionHypothesis

theorem lessened_of_dropFirst? {passes : Bytes → Bool} {arguments fewer : List Bytes}
    (dropped : dropFirst? passes arguments = some fewer) : Lessened arguments fewer := by
  induction arguments generalizing fewer with
  | nil => cases dropped
  | cons first rest inductionHypothesis =>
      unfold dropFirst? at dropped
      split at dropped
      next =>
        cases dropped
        exact .removed
      next =>
        obtain ⟨shorter, found, rfl⟩ := Option.map_eq_some_iff.mp dropped
        exact .behind (inductionHypothesis found)

/-- A cluster that lost a letter keeps its dash and the other letters. -/
theorem sublist_of_withoutLetter? {letter : Char} {argument letters : Bytes}
    (shortened : withoutLetter? letter argument = some letters) :
    (0x2D :: letters).Sublist argument := by
  unfold withoutLetter? at shortened
  split at shortened
  next => cases shortened
  next dash rest split =>
    split at shortened
    next conditions =>
      cases shortened
      have membership : dash ∈ Utf8.pieces argument := by
        rw [split]
        exact List.mem_cons_self
      have raw : dash.raw = [0x2D] :=
        Utf8.raw_of_ascii (by simp) membership conditions.2.1 (by decide) (by decide)
      rw [← Utf8.flatMap_raw_pieces argument, split, List.flatMap_cons, raw]
      apply List.Sublist.cons_cons
      apply List.Sublist.flatMap
      exact List.eraseP_sublist
    next => cases shortened

theorem lessened_of_dropLetter? {letter : Char} {arguments fewer : List Bytes}
    (dropped : dropLetter? letter arguments = some fewer) : Lessened arguments fewer := by
  induction arguments generalizing fewer with
  | nil => cases dropped
  | cons first rest inductionHypothesis =>
      unfold dropLetter? at dropped
      split at dropped
      next =>
        cases dropped
        exact .removed
      next letters _ shortened =>
        cases dropped
        exact .shortened (sublist_of_withoutLetter? shortened) (length_withoutLetter?_lt shortened)
      next =>
        obtain ⟨shorter, found, rfl⟩ := Option.map_eq_some_iff.mp dropped
        exact .behind (inductionHypothesis found)

theorem lessened_of_retry? {cause : Error} {arguments fewer : List Bytes}
    (retried : retry? cause arguments = some fewer) :
    ∃ name before after, arguments = name :: before ∧ fewer = name :: after ∧
      Lessened before after := by
  unfold retry? at retried
  split at retried
  next offending name before =>
    obtain ⟨after, found, rfl⟩ := Option.map_eq_some_iff.mp retried
    refine ⟨name, before, after, rfl, rfl, ?_⟩
    unfold drop? at found
    split at found
    next dropped =>
      cases found
      exact lessened_of_dropFirst? dropped
    next =>
      split at found
      next =>
        split at found
        next => cases found
        next => exact lessened_of_dropLetter? found
      next => cases found
  next => cases retried

/-! ## One question after the other -/

/-- The text that a complaint is about, where it is about one. -/
def Error.offending? : Error → Option String
  | .unknownArgument offending => some offending
  | _ => none

section Asking

variable {Cause Result : Type} (offending? : Cause → Option String)

/-- The arguments that a reader is asked about after a complaint, whatever its complaints are like.
Only a text that a complaint names can be dropped. -/
def again? (cause : Cause) (arguments : List Bytes) : Option (List Bytes) :=
  (offending? cause).bind fun offending => retry? (.unknownArgument offending) arguments

/-- The questions that a reader is asked, with its answers, and what comes of them. -/
inductive Attempts :
    List Bytes → List (List Bytes × Except Cause Result) → Except Cause Result → Prop where
  | content {arguments result} : Attempts arguments [(arguments, .ok result)] (.ok result)
  | refused {arguments cause} : again? offending? cause arguments = none →
      Attempts arguments [(arguments, .error cause)] (.error cause)
  | again {arguments cause fewer later result} : again? offending? cause arguments = some fewer →
      Attempts fewer later result → Attempts arguments ((arguments, .error cause) :: later) result

variable {offending?} {arguments fewer : List Bytes} {cause : Cause}

theorem lessened_of_again? (again : again? offending? cause arguments = some fewer) :
    ∃ name before after, arguments = name :: before ∧ fewer = name :: after ∧
      Lessened before after := by
  obtain ⟨offending, -, retried⟩ := Option.bind_eq_some_iff.mp again
  exact lessened_of_retry? retried

theorem size_again?_lt (again : again? offending? cause arguments = some fewer) :
    size fewer < size arguments := by
  obtain ⟨offending, -, retried⟩ := Option.bind_eq_some_iff.mp again
  exact size_retry?_lt retried

/-- Each answer is the one that a reader has for the turn and for what it is asked about. -/
def AnsweredBy (reader : Nat → List Bytes → Except Cause Result)
    (readings : List (List Bytes × Except Cause Result)) : Prop :=
  ∀ turn reading, readings[turn]? = some reading → reading.2 = reader turn reading.1

section AnsweredBy

variable {reader : Nat → List Bytes → Except Cause Result}
  {first : List Bytes × Except Cause Result} {later : List (List Bytes × Except Cause Result)}

theorem answeredBy_nil : AnsweredBy reader [] := by
  simp [AnsweredBy]

theorem answeredBy_cons_iff : AnsweredBy reader (first :: later) ↔
    first.2 = reader 0 first.1 ∧ AnsweredBy (fun turn => reader (turn + 1)) later := by
  constructor
  · intro answered
    exact ⟨answered 0 first rfl, fun turn => answered (turn + 1)⟩
  · rintro ⟨atFirst, afterwards⟩ turn reading stands
    cases turn with
    | zero =>
        cases stands
        exact atFirst
    | succ turn => exact afterwards turn reading stands

end AnsweredBy

/-- A reader may answer what it likes, each time anew: there comes an answer that is the last. -/
theorem exists_attempts (reader : Nat → List Bytes → Except Cause Result)
    (arguments : List Bytes) : ∃ readings result,
      Attempts offending? arguments readings result ∧ AnsweredBy reader readings := by
  induction measured : size arguments using Nat.strongRecOn generalizing reader arguments with
  | ind bound inductionHypothesis =>
      cases answered : reader 0 arguments with
      | ok result =>
          refine ⟨[(arguments, .ok result)], .ok result, .content, ?_⟩
          exact answeredBy_cons_iff.mpr ⟨answered.symm, answeredBy_nil⟩
      | error cause =>
          cases again : again? offending? cause arguments with
          | none =>
              refine ⟨[(arguments, .error cause)], .error cause, .refused again, ?_⟩
              exact answeredBy_cons_iff.mpr ⟨answered.symm, answeredBy_nil⟩
          | some fewer =>
              obtain ⟨later, result, attempts, afterwards⟩ := inductionHypothesis (size fewer)
                (measured ▸ size_again?_lt again) (fun turn => reader (turn + 1)) fewer rfl
              refine ⟨(arguments, .error cause) :: later, result, .again again attempts, ?_⟩
              exact answeredBy_cons_iff.mpr ⟨answered.symm, afterwards⟩

namespace Attempts

variable {readings : List (List Bytes × Except Cause Result)} {result : Except Cause Result}
  (attempts : Attempts offending? arguments readings result)
include attempts

theorem length_le : readings.length ≤ 1 + size arguments := by
  induction attempts with
  | content => exact Nat.le_add_right 1 _
  | refused => exact Nat.le_add_right 1 _
  | again again _ inductionHypothesis =>
      have smaller := size_again?_lt again
      rw [List.length_cons]
      omega

theorem begins : ∃ answer later, readings = (arguments, answer) :: later := by
  cases attempts with
  | content => exact ⟨_, _, rfl⟩
  | refused => exact ⟨_, _, rfl⟩
  | again => exact ⟨_, _, rfl⟩

theorem ends : ∃ final, readings.getLast? = some (final, result) := by
  induction attempts with
  | content => exact ⟨_, rfl⟩
  | refused => exact ⟨_, rfl⟩
  | again _ attempts inductionHypothesis =>
      obtain ⟨answer, later, rfl⟩ := attempts.begins
      rw [List.getLast?_cons_cons]
      exact inductionHypothesis

theorem reduces : readings.IsChain fun earlier later => Reduced earlier.1 later.1 := by
  induction attempts with
  | content => exact .singleton _
  | refused => exact .singleton _
  | again again attempts inductionHypothesis =>
      obtain ⟨name, before, after, rfl, rfl, lessened⟩ := lessened_of_again? again
      obtain ⟨answer, later, rfl⟩ := attempts.begins
      exact .cons_cons (lessened.reduced name) inductionHypothesis

theorem keeps_order : ∀ reading ∈ readings, reading.1.head? = arguments.head? ∧
    List.SublistForall₂ List.Sublist reading.1.tail arguments.tail := by
  have whole (arguments : List Bytes) : arguments.head? = arguments.head? ∧
      List.SublistForall₂ List.Sublist arguments.tail arguments.tail :=
    ⟨rfl, (List.Sublist.refl _).sublistForall₂⟩
  induction attempts with
  | content => simpa using whole _
  | refused => simpa using whole _
  | again again _ inductionHypothesis =>
      obtain ⟨name, before, after, rfl, rfl, lessened⟩ := lessened_of_again? again
      intro reading membership
      rcases List.mem_cons.mp membership with rfl | membership
      · exact whole _
      · obtain ⟨sameName, ordered⟩ := inductionHypothesis reading membership
        exact ⟨sameName, IsTrans.trans _ _ _ ordered lessened.ordered⟩

end Attempts

end Asking

theorem retry?_eq_again? (cause : Error) (arguments : List Bytes) :
    retry? cause arguments = again? Error.offending? cause arguments := by
  cases cause <;> rfl

/-- What comes of the questions is what comes of reading leniently. -/
theorem Attempts.lenient_eq {Result : Type} {read : List Bytes → Except Error Result}
    {arguments : List Bytes} {readings : List (List Bytes × Except Error Result)}
    {result : Except Error Result}
    (attempts : Attempts Error.offending? arguments readings result)
    (answered : ∀ reading ∈ readings, reading.2 = read reading.1) :
    lenient read arguments = result := by
  induction attempts with
  | content => exact lenient_of_ok (answered _ List.mem_cons_self).symm
  | refused stuck =>
      apply lenient_of_stuck (answered _ List.mem_cons_self).symm
      rw [retry?_eq_again?]
      exact stuck
  | again again _ inductionHypothesis =>
      rw [← retry?_eq_again?] at again
      rw [lenient_of_retried (answered _ List.mem_cons_self).symm again]
      apply inductionHypothesis
      intro reading membership
      exact answered reading (List.mem_cons_of_mem _ membership)

/-- Whatever a reader answers, and whatever its complaints are like, it is asked once more than
there are arguments and octets to drop, at the most. Each time one argument is gone or shorter; the
name of the program stays, what is left keeps its order, and the last answer is the result. -/
theorem lenient_reading_ends {Cause Result : Type} (offending? : Cause → Option String)
    (arguments : List Bytes) :
    (∀ reader : Nat → List Bytes → Except Cause Result, ∃ readings result,
      Attempts offending? arguments readings result ∧ AnsweredBy reader readings) ∧
    (∀ (readings : List (List Bytes × Except Cause Result)) (result : Except Cause Result),
      Attempts offending? arguments readings result →
        (∃ answer later, readings = (arguments, answer) :: later) ∧
        readings.length ≤ 1 + (arguments.tail.length + arguments.tail.flatten.length) ∧
        readings.IsChain (fun earlier later => Reduced earlier.1 later.1) ∧
        (∀ reading ∈ readings, reading.1.head? = arguments.head? ∧
          List.SublistForall₂ List.Sublist reading.1.tail arguments.tail) ∧
        ∃ final, readings.getLast? = some (final, result)) ∧
    ∀ read : List Bytes → Except Error Result, ∃ readings,
      Attempts Error.offending? arguments readings (lenient read arguments) ∧
        ∀ reading ∈ readings, reading.2 = read reading.1 := by
  refine ⟨?_, ?_, ?_⟩
  · intro reader
    exact exists_attempts reader arguments
  · intro readings result attempts
    exact ⟨attempts.begins, attempts.length_le, attempts.reduces, attempts.keeps_order,
      attempts.ends⟩
  · intro read
    obtain ⟨readings, result, attempts, answered⟩ :=
      @exists_attempts _ _ Error.offending? (fun _ => read) arguments
    have same : ∀ reading ∈ readings, reading.2 = read reading.1 := by
      intro reading membership
      obtain ⟨turn, stands⟩ := List.mem_iff_getElem?.mp membership
      exact answered turn reading stands
    refine ⟨readings, ?_, same⟩
    rw [attempts.lenient_eq same]
    exact attempts

theorem lenient_reading_ends_noisy :
    let arguments := [Bytes.ascii "gdb-baud", Bytes.ascii "-qv", Bytes.ascii "foo"]
    let readings : List (List Bytes × Except Error Request) :=
      [(arguments, .error (.unknownArgument "-q")),
        ([Bytes.ascii "gdb-baud", Bytes.ascii "-v", Bytes.ascii "foo"],
          .error (.unknownArgument "foo")),
        ([Bytes.ascii "gdb-baud", Bytes.ascii "-v"], .ok { verbose := true })]
    Attempts Error.offending? arguments readings (.ok { verbose := true }) ∧
      readings.length ≤ 1 + (2 + 6) ∧
      readings.IsChain fun earlier later => Reduced earlier.1 later.1 := by
  intro arguments readings
  have attempts : Attempts Error.offending? arguments readings (.ok { verbose := true }) := by
    refine .again ?_ (.again ?_ .content)
    · decide +kernel
    · decide +kernel
  obtain ⟨-, bounded, reduces, -⟩ :=
    (lenient_reading_ends Error.offending? arguments).2.1 readings _ attempts
  have measured : arguments.tail.length + arguments.tail.flatten.length = 2 + 6 := by
    decide +kernel
  exact ⟨attempts, measured ▸ bounded, reduces⟩

end BaudSwitch.CommandLine
