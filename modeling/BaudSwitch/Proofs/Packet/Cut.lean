import BaudSwitch.Proofs.Packet.Grammar
import BaudSwitch.Proofs.Packet.Verdict

/-!
# Replies cut short

A reply may end anywhere: in the noise, inside an escape, at the stop mark or between the digits.
What is read of it then is the beginning of what would have been read, and the verifying reader
refuses it until the packet is complete; what comes later it does not look at.
-/

namespace BaudSwitch.Packet

/-- The reply holds its packet up to the second digit. -/
inductive Complete : Bytes → Prop where
  | packet {noise body high low suffix} : startMark ∉ noise → stopMark ∉ body →
      Complete (noise ++ startMark :: (body ++ stopMark :: high :: low :: suffix))

/-! ## Nothing wrong appears -/

theorem unescape_mono {short long : Bytes} (cut : short <+: long) :
    unescape short <+: unescape long := by
  obtain ⟨later, rfl⟩ := cut
  induction short using unescape.induct with
  | case1 => exact List.nil_prefix
  | case2 => exact List.nil_prefix
  | case3 octet ordinary =>
      rw [List.singleton_append, unescape_cons ordinary, unescape_cons ordinary]
      exact List.prefix_append [octet] (unescape later)
  | case4 next rest inductionHypothesis =>
      rw [List.cons_append, List.cons_append, unescape_escapeMark_cons, unescape_escapeMark_cons]
      exact (List.prefix_cons_inj _).mpr inductionHypothesis
  | case5 octet next rest ordinary inductionHypothesis =>
      rw [List.cons_append, unescape_cons ordinary, unescape_cons ordinary]
      exact (List.prefix_cons_inj _).mpr inductionHypothesis

theorem extract_of_started {noise : Bytes} (quiet : startMark ∉ noise) (rest : Bytes) :
    extract (noise ++ startMark :: rest) = rest.takeWhile (· != stopMark) := by
  rw [extract, afterStart?_append quiet]

theorem takeWhile_prefix_append (passes : UInt8 → Bool) (rest later : Bytes) :
    rest.takeWhile passes <+: (rest ++ later).takeWhile passes := by
  rw [List.takeWhile_append]
  split
  next => exact (List.takeWhile_prefix passes).trans (List.prefix_append _ _)
  next => exact List.prefix_rfl

theorem extract_mono {cut raw : Bytes} (short : cut <+: raw) : extract cut <+: extract raw := by
  obtain ⟨later, rfl⟩ := short
  by_cases started : startMark ∈ cut
  · obtain ⟨noise, rest, rfl, quiet⟩ := List.eq_append_cons_of_mem started
    rw [List.append_assoc, List.cons_append, extract_of_started quiet, extract_of_started quiet]
    exact takeWhile_prefix_append _ rest later
  · rw [extract_of_quiet started]
    exact List.nil_prefix

/-! ## When a verdict can be given -/

/-- A reply with a complete packet has its verdict, whatever comes later. -/
theorem Complete.extractVerified_append {raw : Bytes} (complete : Complete raw) (later : Bytes) :
    extractVerified (raw ++ later) = extractVerified raw := by
  cases complete with
  | @packet noise body high low suffix quiet unstopped =>
      have longer : (noise ++ startMark :: (body ++ stopMark :: high :: low :: suffix)) ++ later =
          noise ++ startMark :: (body ++ stopMark :: high :: low :: (suffix ++ later)) := by
        simp
      rw [longer]
      cases spelled : Hex.decodeOctet high low with
      | ok received =>
          rw [extractVerified_of_layout quiet unstopped spelled,
            extractVerified_of_layout quiet unstopped spelled]
      | error cause =>
          rw [extractVerified_of_bad_digit quiet unstopped spelled,
            extractVerified_of_bad_digit quiet unstopped spelled]

/-- A reply that has begun has no trailer until its packet is complete. -/
theorem extractVerified_of_incomplete {raw : Bytes} (started : startMark ∈ raw)
    (incomplete : ¬ Complete raw) : extractVerified raw = .error .missingTrailer := by
  apply extractVerified_of_refused started
  obtain ⟨noise, rest, rfl, quiet⟩ := List.eq_append_cons_of_mem started
  by_cases stopped : stopMark ∈ rest
  · obtain ⟨body, trail, rfl, unstopped⟩ := List.eq_append_cons_of_mem stopped
    match trail with
    | [] => exact trailer_of_cutShort quiet unstopped (by simp)
    | [octet] => exact trailer_of_cutShort quiet unstopped (by simp)
    | high :: low :: suffix => exact absurd (.packet quiet unstopped) incomplete
  · exact trailer_of_unstopped quiet stopped

theorem Complete.length_extract_le {raw : Bytes} (complete : Complete raw) :
    (extract raw).length + 4 ≤ raw.length := by
  cases complete with
  | @packet noise body high low suffix quiet unstopped =>
      rw [extract_of_stopped quiet unstopped]
      simp only [List.length_append, List.length_cons]
      omega

theorem Complete.extract_append {raw : Bytes} (complete : Complete raw) (later : Bytes) :
    extract (raw ++ later) = extract raw := by
  cases complete with
  | packet quiet unstopped =>
      rw [List.append_assoc, List.cons_append, List.append_assoc, List.cons_append,
        extract_of_stopped quiet unstopped, extract_of_stopped quiet unstopped]

/-- A packet has no octet to spare. -/
theorem incomplete_take_frame {payload : Bytes} {count : Nat}
    (proper : count < (frame payload).length) : ¬ Complete ((frame payload).take count) := by
  intro complete
  have same := complete.extract_append ((frame payload).drop count)
  rw [List.take_append_drop, extract_frame] at same
  have long := complete.length_extract_le
  rw [← same, ← length_frame, List.length_take] at long
  omega

/-- Cutting a reply short takes from the end of what is read, and never puts in anything else. The
verifying reader refuses what has begun and is not complete, every proper part of a packet with
it, and has said all it says once a packet is complete. -/
theorem reply_cut_short (raw : Bytes) (count : Nat) :
    let cut := raw.take count
    extract cut <+: extract raw ∧
      unescape (extract cut) <+: unescape (extract raw) ∧
      (startMark ∉ cut → extractVerified cut = .ok []) ∧
      (startMark ∈ cut → ¬ Complete cut → extractVerified cut = .error .missingTrailer) ∧
      (Complete cut → extractVerified cut = extractVerified raw) ∧
      (∀ payload, raw = frame payload → startMark ∈ cut → count < raw.length →
        extractVerified cut = .error .missingTrailer) ∧
      (Complete raw → ∀ later, extractVerified (raw ++ later) = extractVerified raw) := by
  intro cut
  have short : cut <+: raw := List.take_prefix count raw
  refine ⟨extract_mono short, unescape_mono (extract_mono short), extractVerified_of_quiet,
    extractVerified_of_incomplete, ?_, ?_, Complete.extractVerified_append⟩
  · intro complete
    rw [← complete.extractVerified_append (raw.drop count), List.take_append_drop]
  · rintro payload rfl started proper
    exact extractVerified_of_incomplete started (incomplete_take_frame proper)

/-- Noise, a packet whose first payload octet is escaped, and an acknowledgement. The cuts fall in
front of the packet, inside the escape, between the two digits and behind them. -/
theorem reply_cut_short_everywhere :
    let raw : Bytes := [0x2B] ++ frame [0x23, 0x41] ++ [0x2B]
    (startMark ∉ raw.take 1 ∧ extractVerified (raw.take 1) = .ok []) ∧
      (startMark ∈ raw.take 3 ∧ ¬ Complete (raw.take 3) ∧ extract (raw.take 3) = [escapeMark] ∧
        unescape (extract (raw.take 3)) <+: unescape (extract raw) ∧
        extractVerified (raw.take 3) = .error .missingTrailer) ∧
      (startMark ∈ (frame [0x23, 0x41]).take 6 ∧ 6 < (frame [0x23, 0x41]).length ∧
        extractVerified ((frame [0x23, 0x41]).take 6) = .error .missingTrailer) ∧
      (Complete (raw.take 8) ∧ extractVerified (raw.take 8) = extractVerified raw) ∧
      Complete raw ∧ extractVerified (raw ++ frame [0x41]) = extractVerified raw := by
  intro raw
  have untouched : startMark ∉ raw.take 1 := by decide
  have begun : startMark ∈ raw.take 3 := by decide
  have incomplete : ¬ Complete (raw.take 3) :=
    fun complete => absurd complete.length_extract_le (by decide)
  have short : startMark ∈ (frame [0x23, 0x41]).take 6 ∧ 6 < (frame [0x23, 0x41]).length := by
    decide
  have quiet : startMark ∉ ([0x2B] : Bytes) := by decide
  have unstopped : stopMark ∉ ([0x7D, 0x03, 0x41] : Bytes) := by decide
  have ended : Complete (raw.take 8) := @Complete.packet _ _ 0x36 0x34 [] quiet unstopped
  have whole : Complete raw := @Complete.packet _ _ 0x36 0x34 [0x2B] quiet unstopped
  obtain ⟨-, begins, -, refused, -⟩ := reply_cut_short raw 3
  refine ⟨⟨untouched, (reply_cut_short raw 1).2.2.1 untouched⟩,
    ⟨begun, incomplete, by decide, begins, refused begun incomplete⟩, ⟨short.1, short.2, ?_⟩,
    ⟨ended, ?_⟩, whole, ?_⟩
  · exact (reply_cut_short (frame [0x23, 0x41]) 6).2.2.2.2.2.1 _ rfl short.1 short.2
  · exact (reply_cut_short raw 8).2.2.2.2.1 ended
  · exact (reply_cut_short raw 8).2.2.2.2.2.2 whole (frame [0x41])

end BaudSwitch.Packet
