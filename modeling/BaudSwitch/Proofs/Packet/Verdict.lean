import BaudSwitch.Proofs.Packet.Framing
import Mathlib.Algebra.Ring.Nat
import Mathlib.Data.List.TakeWhile

/-!
# Verdicts on replies

The verifying reader against a grammar of replies.  A whole reply is noise, a start mark, a body, a
stop mark and two digits; each rule of the grammar says where a reply departs from that layout and
what is then to be said of it.  The reader says just this of every reply.
-/

namespace BaudSwitch.Packet

/-- What is to be said of a reply. The first start mark opens the packet and the next stop mark
closes its body, so noise holds no start mark and a body no stop mark. -/
inductive Verdict : Bytes → Except Error Bytes → Prop where
  | silent {raw} : startMark ∉ raw → Verdict raw (.ok [])
  | unstopped {noise rest} : startMark ∉ noise → stopMark ∉ rest →
      Verdict (noise ++ startMark :: rest) (.error .missingTrailer)
  | cutShort {noise body rest} : startMark ∉ noise → stopMark ∉ body → rest.length < 2 →
      Verdict (noise ++ startMark :: (body ++ stopMark :: rest)) (.error .missingTrailer)
  | badHigh {noise body high low suffix} : startMark ∉ noise → stopMark ∉ body →
      (∀ number, ¬ Hex.Digit high number) →
      Verdict (noise ++ startMark :: (body ++ stopMark :: high :: low :: suffix))
        (.error (.hex (.invalidDigit high)))
  | badLow {noise body high low suffix upper} : startMark ∉ noise → stopMark ∉ body →
      Hex.Digit high upper → (∀ number, ¬ Hex.Digit low number) →
      Verdict (noise ++ startMark :: (body ++ stopMark :: high :: low :: suffix))
        (.error (.hex (.invalidDigit low)))
  | matching {noise body high low suffix upper lower} : startMark ∉ noise → stopMark ∉ body →
      Hex.Digit high upper → Hex.Digit low lower →
      16 * upper.toNat + lower.toNat = ((unescape body).map UInt8.toNat).sum % 256 →
      Verdict (noise ++ startMark :: (body ++ stopMark :: high :: low :: suffix)) (.ok body)
  | mismatching {noise body high low suffix upper lower received computed} :
      startMark ∉ noise → stopMark ∉ body → Hex.Digit high upper → Hex.Digit low lower →
      received.toNat = 16 * upper.toNat + lower.toNat →
      computed.toNat = ((unescape body).map UInt8.toNat).sum % 256 → received ≠ computed →
      Verdict (noise ++ startMark :: (body ++ stopMark :: high :: low :: suffix))
        (.error (.mismatch received computed))

/-! ## The layout of a reply -/

theorem toNat_foldl_add (payload : Bytes) (start : UInt8) :
    (payload.foldl (· + ·) start).toNat =
      (start.toNat + (payload.map UInt8.toNat).sum) % 256 := by
  induction payload generalizing start with
  | nil =>
      have bounded := start.toNat_lt
      simp only [List.foldl_nil, List.map_nil, List.sum_nil]
      omega
  | cons octet rest inductionHypothesis =>
      rw [List.foldl_cons, inductionHypothesis, UInt8.toNat_add, List.map_cons, List.sum_cons]
      omega

theorem toNat_checksum (payload : Bytes) :
    (checksum payload).toNat = ((payload.map UInt8.toNat).sum) % 256 := by
  have summed := toNat_foldl_add payload 0
  rw [UInt8.toNat_zero, Nat.zero_add] at summed
  exact summed

section Reading

variable {noise rest body : Bytes} {high low : UInt8} {suffix : Bytes}

theorem extractVerified_of_quiet {raw : Bytes} (quiet : startMark ∉ raw) :
    extractVerified raw = .ok [] := by
  have unmarked : ¬ raw.contains startMark = true := by
    rw [List.contains_iff_mem]
    exact quiet
  rw [extractVerified, if_neg unmarked]
  rfl

theorem extract_of_quiet {raw : Bytes} (quiet : startMark ∉ raw) : extract raw = [] := by
  have unopened : afterStart? raw = none := by
    induction raw with
    | nil => rfl
    | cons octet raw inductionHypothesis =>
        have ordinary : octet ≠ startMark := fun equal => quiet (by simp [equal])
        rw [afterStart?, if_neg ordinary]
        exact inductionHypothesis fun membership => quiet (.tail octet membership)
  rw [extract, unopened]

/-- A reply whose trailer cannot be read is refused for that. -/
theorem extractVerified_of_refused {raw : Bytes} {cause : Error} (started : startMark ∈ raw)
    (refused : trailer raw = .error cause) : extractVerified raw = .error cause := by
  rw [extractVerified, if_pos (List.contains_iff_mem.mpr started), refused]
  rfl

theorem trailer_of_unstopped (quiet : startMark ∉ noise) (unstopped : stopMark ∉ rest) :
    trailer (noise ++ startMark :: rest) = .error .missingTrailer := by
  have nothing : rest.dropWhile (· != stopMark) = [] :=
    List.dropWhile_eq_nil_iff.mpr (passes_of_notMem unstopped)
  rw [trailer, afterStart?_append quiet]
  simp only [nothing]

theorem trailer_of_cutShort (quiet : startMark ∉ noise) (unstopped : stopMark ∉ body)
    (short : rest.length < 2) :
    trailer (noise ++ startMark :: (body ++ stopMark :: rest)) = .error .missingTrailer := by
  rw [trailer, afterStart?_append quiet]
  simp only [dropWhile_stop unstopped]
  cases rest with
  | nil => rfl
  | cons octet rest =>
      cases List.length_eq_zero_iff.mp (Nat.lt_one_iff.mp (Nat.lt_of_succ_lt_succ short))
      rfl

theorem extractVerified_of_layout (quiet : startMark ∉ noise) (unstopped : stopMark ∉ body)
    {received : UInt8} (spelled : Hex.decodeOctet high low = .ok received) :
    extractVerified (noise ++ startMark :: (body ++ stopMark :: high :: low :: suffix)) =
      if received = checksum (unescape body) then .ok body
      else .error (.mismatch received (checksum (unescape body))) := by
  have trailed : trailer (noise ++ startMark :: (body ++ stopMark :: high :: low :: suffix)) =
      .ok received := by
    rw [trailer_of_stopped quiet unstopped, spelled]
    rfl
  rw [extractVerified_of_started (by simp) trailed, extract_of_stopped quiet unstopped]

theorem extractVerified_of_bad_digit (quiet : startMark ∉ noise) (unstopped : stopMark ∉ body)
    {cause : Hex.Error} (refused : Hex.decodeOctet high low = .error cause) :
    extractVerified (noise ++ startMark :: (body ++ stopMark :: high :: low :: suffix)) =
      .error (.hex cause) := by
  apply extractVerified_of_refused (by simp)
  rw [trailer_of_stopped quiet unstopped, refused]
  rfl

end Reading

/-! ## The reader keeps to the grammar -/

theorem Verdict.extractVerified_eq {raw : Bytes} {result : Except Error Bytes}
    (verdict : Verdict raw result) : extractVerified raw = result := by
  cases verdict with
  | silent quiet => exact extractVerified_of_quiet quiet
  | unstopped quiet unstopped =>
      exact extractVerified_of_refused (by simp) (trailer_of_unstopped quiet unstopped)
  | cutShort quiet unstopped short =>
      exact extractVerified_of_refused (by simp) (trailer_of_cutShort quiet unstopped short)
  | badHigh quiet unstopped noDigit =>
      exact extractVerified_of_bad_digit quiet unstopped (Hex.decodeOctet_of_bad_high noDigit)
  | badLow quiet unstopped first noDigit =>
      exact extractVerified_of_bad_digit quiet unstopped (Hex.decodeOctet_of_bad_low first noDigit)
  | matching quiet unstopped first second sums =>
      rw [extractVerified_of_layout quiet unstopped (Hex.decodeOctet_of_digits first second)]
      apply if_pos
      apply UInt8.toNat_inj.mp
      rw [Hex.toNat_octet_of_digits first second, toNat_checksum, sums]
  | @mismatching _ body _ _ _ upper lower received computed quiet unstopped first second spelled
      sums differ =>
      have sameReceived : upper * 16 + lower = received := by
        apply UInt8.toNat_inj.mp
        rw [Hex.toNat_octet_of_digits first second, spelled]
      have sameComputed : checksum (unescape body) = computed := by
        apply UInt8.toNat_inj.mp
        rw [toNat_checksum, sums]
      rw [extractVerified_of_layout quiet unstopped (Hex.decodeOctet_of_digits first second),
        sameReceived, sameComputed, if_neg differ]

theorem verdict_of_digits {noise body suffix : Bytes} {high low upper lower : UInt8}
    (quiet : startMark ∉ noise) (unstopped : stopMark ∉ body) (first : Hex.Digit high upper)
    (second : Hex.Digit low lower) :
    ∃ result,
      Verdict (noise ++ startMark :: (body ++ stopMark :: high :: low :: suffix)) result := by
  have spelled := Hex.toNat_octet_of_digits first second
  by_cases same : upper * 16 + lower = checksum (unescape body)
  · refine ⟨_, .matching quiet unstopped first second ?_⟩
    rw [← spelled, same, toNat_checksum]
  · exact ⟨_, .mismatching quiet unstopped first second spelled (toNat_checksum _) same⟩

/-- The grammar has a rule for every reply. -/
theorem exists_verdict (raw : Bytes) : ∃ result, Verdict raw result := by
  by_cases started : startMark ∈ raw
  · obtain ⟨noise, rest, rfl, quiet⟩ := List.eq_append_cons_of_mem started
    by_cases stopped : stopMark ∈ rest
    · obtain ⟨body, trail, rfl, unstopped⟩ := List.eq_append_cons_of_mem stopped
      match trail with
      | [] => exact ⟨_, .cutShort quiet unstopped (by simp)⟩
      | [octet] => exact ⟨_, .cutShort quiet unstopped (by simp)⟩
      | high :: low :: suffix =>
          by_cases first : ∃ upper, Hex.Digit high upper
          · obtain ⟨upper, first⟩ := first
            by_cases second : ∃ lower, Hex.Digit low lower
            · obtain ⟨lower, second⟩ := second
              exact verdict_of_digits quiet unstopped first second
            · exact ⟨_, .badLow quiet unstopped first (not_exists.mp second)⟩
          · exact ⟨_, .badHigh quiet unstopped (not_exists.mp first)⟩
    · exact ⟨_, .unstopped quiet stopped⟩
  · exact ⟨_, .silent started⟩

theorem Verdict.extract_eq {raw body : Bytes} (verdict : Verdict raw (.ok body)) :
    extract raw = body := by
  cases verdict with
  | silent quiet => exact extract_of_quiet quiet
  | matching quiet unstopped => exact extract_of_stopped quiet unstopped _

/-- The verifying reader says of a reply what the grammar does, nothing else, and what it accepts is
what the trusting reader takes. -/
theorem extractVerified_iff_verdict (raw : Bytes) :
    (∀ result, extractVerified raw = result ↔ Verdict raw result) ∧
      ∀ body, extractVerified raw = .ok body → extract raw = body := by
  have judged : Verdict raw (extractVerified raw) := by
    obtain ⟨result, verdict⟩ := exists_verdict raw
    rw [verdict.extractVerified_eq]
    exact verdict
  constructor
  · intro result
    constructor
    · intro same
      exact same ▸ judged
    · exact Verdict.extractVerified_eq
  · intro body accepted
    rw [accepted] at judged
    exact judged.extract_eq

/-- Noise with a stop mark in it, a body with an escape and a start mark, and a digit in upper
case. -/
theorem extractVerified_iff_verdict_noisy :
    let body : Bytes := [0x7D, 0x03, 0x24, 0x03]
    let raw : Bytes := [0x2B, 0x23] ++ startMark :: (body ++ stopMark :: 0x34 :: 0x41 :: [0x2B])
    extractVerified raw = .ok body ∧ Verdict raw (.ok body) ∧ extract raw = body := by
  intro body raw
  have accepted : extractVerified raw = .ok body := by decide
  exact ⟨accepted, ((extractVerified_iff_verdict raw).1 _).mp accepted,
    (extractVerified_iff_verdict raw).2 body accepted⟩

end BaudSwitch.Packet
