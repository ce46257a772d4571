import BaudSwitch.Proofs.Packet.Grammar
import BaudSwitch.Proofs.Packet.Verdict

/-!
# One octet changed on the way

A packet in which one octet arrived as another is not taken for a different packet.  A change in
the body changes one octet of the payload, so that the sum is no longer the one that was sent; a
change outside it leaves no packet, no trailer, or a trailer that is not the sum.  The escapes are
left out of this: an escape mark that comes or goes shifts what follows it.
-/

namespace BaudSwitch.Packet

/-! ## The body -/

theorem checksum_ne_of_changed {before after : Bytes} {old new : UInt8} (differ : new ≠ old) :
    checksum (before ++ new :: after) ≠ checksum (before ++ old :: after) := by
  intro same
  have sums := congrArg UInt8.toNat same
  simp only [toNat_checksum, List.map_append, List.map_cons, List.sum_append,
    List.sum_cons] at sums
  have newBound := new.toNat_lt
  have oldBound := old.toNat_lt
  apply differ
  apply UInt8.toNat_inj.mp
  omega

/-- An octet of a body that is no escape mark decides one octet of the payload, and no other. -/
theorem exists_changed_payload (payload : Bytes) {index : Nat} {held octet : UInt8}
    (stands : (escape payload)[index]? = some held) (changed : octet ≠ held)
    (ordinary : held ≠ escapeMark) (unescaping : octet ≠ escapeMark) :
    ∃ before old new after, payload = before ++ old :: after ∧ new ≠ old ∧
      unescape ((escape payload).set index octet) = before ++ new :: after := by
  induction payload generalizing index with
  | nil => cases stands
  | cons first payload inductionHypothesis =>
      have behind {unit : Bytes} {place : Nat} (same : escapeOctet first = unit)
          (stands : (escape payload)[place]? = some held) :
          ∃ before old new after, first :: payload = before ++ old :: after ∧ new ≠ old ∧
            unescape (unit ++ (escape payload).set place octet) = before ++ new :: after := by
        obtain ⟨before, old, new, after, split, differ, undone⟩ := inductionHypothesis stands
        refine ⟨first :: before, old, new, after, by rw [split, List.cons_append], differ, ?_⟩
        rw [← same, unescape_escapeOctet_append, undone, List.cons_append]
      by_cases reserved : isReserved first = true
      · have pair : escapeOctet first = [escapeMark, first ^^^ escapeMask] := if_pos reserved
        rw [escape_cons, pair] at stands ⊢
        match index with
        | 0 =>
            cases stands
            exact absurd rfl ordinary
        | 1 =>
            cases stands
            refine ⟨[], first, octet ^^^ escapeMask, payload, rfl, ?_, ?_⟩
            · intro same
              apply changed
              rw [← same, UInt8.xor_assoc, UInt8.xor_self, UInt8.xor_zero]
            · exact (unescape_escapeMark_cons octet (escape payload)).trans
                (congrArg _ (unescape_escape payload))
        | index + 2 => exact behind pair stands
      · have single : escapeOctet first = [first] := if_neg reserved
        rw [escape_cons, single] at stands ⊢
        match index with
        | 0 =>
            cases stands
            refine ⟨[], held, octet, payload, rfl, changed, ?_⟩
            exact (unescape_cons unescaping (escape payload)).trans
              (congrArg _ (unescape_escape payload))
        | index + 1 => exact behind single stands

theorem extractVerified_of_changed_body (payload : Bytes) {index : Nat} {held octet : UInt8}
    (stands : (escape payload)[index]? = some held) (changed : octet ≠ held)
    (ordinary : held ≠ escapeMark) (unstopping : octet ≠ stopMark)
    (unescaping : octet ≠ escapeMark) :
    ∃ computed, computed ≠ checksum payload ∧
      extractVerified (startMark :: ((escape payload).set index octet ++
        stopMark :: Hex.encodeOctet (checksum payload))) =
          .error (.mismatch (checksum payload) computed) := by
  obtain ⟨before, old, new, after, split, differ, undone⟩ :=
    exists_changed_payload payload stands changed ordinary unescaping
  have altered : checksum (before ++ new :: after) ≠ checksum payload := by
    rw [split]
    exact checksum_ne_of_changed differ
  have unstopped : stopMark ∉ (escape payload).set index octet := by
    intro membership
    rcases List.mem_or_eq_of_mem_set membership with membership | same
    · exact stopMark_notMem_escape payload membership
    · exact unstopping same.symm
  have read := @extractVerified_of_layout [] _ _ _ [] List.not_mem_nil unstopped _
    (Hex.decodeOctet_digits (checksum payload))
  rw [undone, if_neg altered.symm] at read
  exact ⟨_, altered, read⟩

/-! ## The marks -/

theorem no_digit_of_mark {mark : UInt8} (isMark : mark = startMark ∨ mark = stopMark)
    (number : UInt8) : ¬ Hex.Digit mark number := by
  intro digit
  have read := Hex.value?_eq_some_iff.mpr digit
  rcases isMark with rfl | rfl <;> cases read

theorem mark_notMem_encodeOctet {mark : UInt8} (isMark : mark = startMark ∨ mark = stopMark)
    (octet : UInt8) : mark ∉ Hex.encodeOctet octet := by
  simp only [Hex.encodeOctet, List.mem_cons, List.not_mem_nil, or_false]
  rintro (rfl | rfl)
  · exact no_digit_of_mark isMark _ (Hex.digit_upperHalf octet)
  · exact no_digit_of_mark isMark _ (Hex.digit_lowerHalf octet)

theorem extractVerified_of_lost_start (payload : Bytes) {octet : UInt8}
    (changed : octet ≠ startMark) :
    extractVerified (octet :: (escape payload ++
      stopMark :: Hex.encodeOctet (checksum payload))) = .ok [] := by
  apply extractVerified_of_quiet
  simp only [List.mem_cons, List.mem_append, not_or]
  exact ⟨changed.symm, mark_notMem_escape (.inl rfl) payload, by decide,
    mark_notMem_encodeOctet (.inl rfl) _⟩

theorem extractVerified_of_lost_stop (payload : Bytes) {octet : UInt8}
    (changed : octet ≠ stopMark) :
    extractVerified (startMark :: (escape payload ++
      octet :: Hex.encodeOctet (checksum payload))) = .error .missingTrailer := by
  apply extractVerified_of_refused List.mem_cons_self
  apply @trailer_of_unstopped [] _ List.not_mem_nil
  simp only [List.mem_cons, List.mem_append, not_or]
  exact ⟨stopMark_notMem_escape payload, changed.symm, mark_notMem_encodeOctet (.inr rfl) _⟩

/-! ## The trailer -/

section Trailer

variable {payload : Bytes} {high low : UInt8}

theorem extractVerified_of_trailer {received : UInt8}
    (spelled : Hex.decodeOctet high low = .ok received) :
    extractVerified (startMark :: (escape payload ++ [stopMark, high, low])) =
      if received = checksum payload then .ok (escape payload)
      else .error (.mismatch received (checksum payload)) := by
  have read := @extractVerified_of_layout [] _ _ _ [] List.not_mem_nil
    (stopMark_notMem_escape payload) _ spelled
  rw [unescape_escape] at read
  exact read

theorem extractVerified_of_bad_trailer {cause : Hex.Error}
    (refused : Hex.decodeOctet high low = .error cause) :
    extractVerified (startMark :: (escape payload ++ [stopMark, high, low])) =
      .error (.hex cause) :=
  @extractVerified_of_bad_digit [] _ _ _ [] List.not_mem_nil (stopMark_notMem_escape payload) _
    refused

theorem eq_escape_of_accepted {body : Bytes}
    (accepted : extractVerified (startMark :: (escape payload ++ [stopMark, high, low])) =
      .ok body) : body = escape payload := by
  cases spelled : Hex.decodeOctet high low with
  | ok received =>
      rw [extractVerified_of_trailer spelled] at accepted
      split at accepted
      next => exact (Except.ok.inj accepted).symm
      next => cases accepted
  | error cause =>
      rw [extractVerified_of_bad_trailer spelled] at accepted
      cases accepted

end Trailer

/-- The two digits of a sum, one of which is held no more: another octet stands there. -/
inductive Respelled (sum held octet : UInt8) : UInt8 → UInt8 → Prop where
  | high : held = Hex.digit (sum / 16) → Respelled sum held octet octet (Hex.digit (sum % 16))
  | low : held = Hex.digit (sum % 16) → Respelled sum held octet (Hex.digit (sum / 16)) octet

namespace Respelled

variable {sum held octet high low : UInt8}

theorem decode_of_same (respelled : Respelled sum held octet high low)
    (same : octet = Hex.upperCase held) : Hex.decodeOctet high low = .ok sum := by
  have upper := Hex.digit_upperHalf sum
  have lower := Hex.digit_lowerHalf sum
  subst same
  cases respelled with
  | high stands =>
      subst stands
      rw [Hex.decodeOctet_of_digits (Hex.digit_upperCase upper) lower, Hex.join_halves]
  | low stands =>
      subst stands
      rw [Hex.decodeOctet_of_digits upper (Hex.digit_upperCase lower), Hex.join_halves]

theorem decode_of_noDigit (respelled : Respelled sum held octet high low)
    (noDigit : ∀ number, ¬ Hex.Digit octet number) :
    Hex.decodeOctet high low = .error (.invalidDigit octet) := by
  cases respelled with
  | high => exact Hex.decodeOctet_of_bad_high noDigit
  | low => exact Hex.decodeOctet_of_bad_low (Hex.digit_upperHalf sum) noDigit

theorem decode_of_other {number : UInt8} (respelled : Respelled sum held octet high low)
    (digit : Hex.Digit octet number) (changed : octet ≠ held)
    (different : octet ≠ Hex.upperCase held) :
    ∃ received, received ≠ sum ∧ Hex.decodeOctet high low = .ok received := by
  have sixteen : (16 : UInt8).toNat = 16 := rfl
  have another {stood : UInt8} (stands : held = Hex.digit stood) : number.toNat ≠ stood.toNat := by
    intro same
    cases UInt8.toNat_inj.mp same
    rcases digit.eq_or_eq_upperCase with equal | equal
    · exact changed (equal.trans stands.symm)
    · exact different (stands ▸ equal)
  cases respelled with
  | high stands =>
      refine ⟨_, ?_, Hex.decodeOctet_of_digits digit (Hex.digit_lowerHalf sum)⟩
      intro same
      have spelled := Hex.toNat_octet_of_digits digit (Hex.digit_lowerHalf sum)
      have differ := another stands
      rw [same, UInt8.toNat_mod, sixteen] at spelled
      rw [UInt8.toNat_div, sixteen] at differ
      omega
  | low stands =>
      refine ⟨_, ?_, Hex.decodeOctet_of_digits (Hex.digit_upperHalf sum) digit⟩
      intro same
      have spelled := Hex.toNat_octet_of_digits (Hex.digit_upperHalf sum) digit
      have differ := another stands
      rw [same, UInt8.toNat_div, sixteen] at spelled
      rw [UInt8.toNat_mod, sixteen] at differ
      omega

end Respelled

/-! ## Wherever it was -/

/-- Where an octet of a packet stands, and the packet with another in its place. -/
inductive Site (payload : Bytes) (held octet : UInt8) : Nat → Bytes → Prop where
  | start : held = startMark →
      Site payload held octet 0
        (octet :: (escape payload ++ stopMark :: Hex.encodeOctet (checksum payload)))
  | body {index} : (escape payload)[index]? = some held →
      Site payload held octet (index + 1) (startMark :: ((escape payload).set index octet ++
        stopMark :: Hex.encodeOctet (checksum payload)))
  | stop : held = stopMark →
      Site payload held octet ((escape payload).length + 1)
        (startMark :: (escape payload ++ octet :: Hex.encodeOctet (checksum payload)))
  | trailer {place high low} : (escape payload).length + 1 < place →
      Respelled (checksum payload) held octet high low →
      Site payload held octet place (startMark :: (escape payload ++ [stopMark, high, low]))

theorem site_of_stands {payload : Bytes} {place : Nat} {held : UInt8} (octet : UInt8)
    (stands : (frame payload)[place]? = some held) :
    Site payload held octet place ((frame payload).set place octet) := by
  cases place with
  | zero =>
      cases stands
      exact .start rfl
  | succ index =>
      rw [frame, List.set_cons_succ]
      rw [frame, List.getElem?_cons_succ] at stands
      by_cases inBody : index < (escape payload).length
      · rw [List.set_append_left _ _ inBody]
        rw [List.getElem?_append_left inBody] at stands
        exact .body stands
      · obtain ⟨beyond, rfl⟩ := Nat.exists_eq_add_of_le (Nat.le_of_not_lt inBody)
        rw [List.set_append_right _ _ (Nat.le_add_right _ _), Nat.add_sub_cancel_left]
        rw [List.getElem?_append_right (Nat.le_add_right _ _), Nat.add_sub_cancel_left] at stands
        rcases beyond with _ | _ | _ | beyond
        · cases stands
          exact .stop rfl
        · cases stands
          exact .trailer (by omega) (.high rfl)
        · cases stands
          exact .trailer (by omega) (.low rfl)
        · cases stands

/-- The verifying reader on a packet in which one octet arrived as another, by where it stood. -/
theorem one_octet_changed (payload : Bytes) {place : Nat} {held octet : UInt8}
    (stands : (frame payload)[place]? = some held) (changed : octet ≠ held)
    (unescaping : 0 < place → place ≤ (escape payload).length →
      held ≠ escapeMark ∧ octet ≠ stopMark ∧ octet ≠ escapeMark) :
    let result := extractVerified ((frame payload).set place octet)
    (place = 0 → result = .ok []) ∧
      (0 < place → place ≤ (escape payload).length →
        ∃ computed, computed ≠ checksum payload ∧
          result = .error (.mismatch (checksum payload) computed)) ∧
      (place = (escape payload).length + 1 → result = .error .missingTrailer) ∧
      ((escape payload).length + 1 < place →
        (octet = Hex.upperCase held → result = .ok (extract (frame payload))) ∧
        ((∀ number, ¬ Hex.Digit octet number) → result = .error (.hex (.invalidDigit octet))) ∧
        (octet ≠ Hex.upperCase held → (∃ number, Hex.Digit octet number) →
          ∃ received, received ≠ checksum payload ∧
            result = .error (.mismatch received (checksum payload)))) ∧
      ∀ body, result = .ok body → body ≠ [] → body = extract (frame payload) := by
  intro result
  have site := site_of_stands octet stands
  revert result
  generalize (frame payload).set place octet = packet at site
  cases site with
  | start held =>
      subst held
      rw [extractVerified_of_lost_start payload changed]
      refine ⟨fun _ => rfl, fun behind => absurd behind (by omega),
        fun behind => absurd behind (by omega), fun behind => absurd behind (by omega), ?_⟩
      rintro body ⟨⟩ filled
      exact absurd rfl filled
  | @body index here =>
      have inside : index < (escape payload).length := (List.getElem?_eq_some_iff.mp here).1
      obtain ⟨ordinary, unstopping, unescaped⟩ := unescaping (by omega) (by omega)
      obtain ⟨computed, altered, refused⟩ :=
        extractVerified_of_changed_body payload here changed ordinary unstopping unescaped
      rw [refused]
      refine ⟨fun first => absurd first (by omega), fun _ _ => ⟨computed, altered, rfl⟩,
        fun behind => absurd behind (by omega), fun behind => absurd behind (by omega), nofun⟩
  | stop held =>
      subst held
      rw [extractVerified_of_lost_stop payload changed]
      exact ⟨fun first => absurd first (by omega), fun _ inside => absurd inside (by omega),
        fun _ => rfl, fun behind => absurd behind (by omega), nofun⟩
  | trailer behind respelled =>
      refine ⟨fun first => absurd first (by omega), fun _ inside => absurd inside (by omega),
        fun here => absurd here (by omega), fun _ => ⟨?_, ?_, ?_⟩, ?_⟩
      · intro same
        rw [extractVerified_of_trailer (respelled.decode_of_same same), if_pos rfl, extract_frame]
      · intro noDigit
        exact extractVerified_of_bad_trailer (respelled.decode_of_noDigit noDigit)
      · rintro different ⟨number, digit⟩
        obtain ⟨received, wrong, spelled⟩ := respelled.decode_of_other digit changed different
        exact ⟨received, wrong, (extractVerified_of_trailer spelled).trans (if_neg wrong)⟩
      · intro body read _
        rw [extract_frame]
        exact eq_escape_of_accepted read

/-- The packet of a payload whose first octet is escaped. The changes are at the start mark, behind
the escape mark, where a bare start mark comes in, at the stop mark and at the last digit, which is
a letter. -/
theorem one_octet_changed_everywhere :
    let packet := frame [0x23, 0x6B]
    packet = [0x24, 0x7D, 0x03, 0x6B, 0x23, 0x38, 0x65] ∧
      extractVerified (packet.set 0 0x2B) = .ok [] ∧
      (∃ computed, computed ≠ 0x8E ∧
        extractVerified (packet.set 2 0x24) = .error (.mismatch 0x8E computed)) ∧
      extractVerified (packet.set 4 0x7D) = .error .missingTrailer ∧
      extractVerified (packet.set 6 0x45) = .ok (extract packet) ∧
      extractVerified (packet.set 6 0x67) = .error (.hex (.invalidDigit 0x67)) ∧
      ∃ received, received ≠ 0x8E ∧
        extractVerified (packet.set 6 0x66) = .error (.mismatch received 0x8E) := by
  have start := @one_octet_changed [0x23, 0x6B] 0 0x24 0x2B rfl (by decide) (by decide)
  have body := @one_octet_changed [0x23, 0x6B] 2 0x03 0x24 rfl (by decide) (by decide)
  have stop := @one_octet_changed [0x23, 0x6B] 4 0x23 0x7D rfl (by decide) (by decide)
  have trailer (octet : UInt8) (changed : octet ≠ 0x65) :=
    (@one_octet_changed [0x23, 0x6B] 6 0x65 octet rfl changed
      (fun _ inside => absurd inside (by decide))).2.2.2.1 (by decide)
  have noDigit : ∀ number, ¬ Hex.Digit 0x67 number := by
    intro number digit
    cases Hex.value?_eq_some_iff.mpr digit
  exact ⟨rfl, start.1 rfl, body.2.1 (by decide) (by decide), stop.2.2.1 rfl,
    (trailer 0x45 (by decide)).1 rfl, (trailer 0x67 (by decide)).2.1 noDigit,
    (trailer 0x66 (by decide)).2.2 (by decide) ⟨_, .lower (by decide) (by decide)⟩⟩

end BaudSwitch.Packet
