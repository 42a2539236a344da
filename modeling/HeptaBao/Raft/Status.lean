import HeptaBao.Raft.Envelope

namespace HeptaBao.Raft

open Wire Durable List

-- The text V1 writers left behind: hbr1:op:digest:sealed.
def statusV1 (opId digest sealedBytes : Str) : Str :=
  envelopeV1Prefix ++ (opId ++ colon :: (digest ++ colon :: sealedBytes))

theorem split_on_append (head tail : Bytes) : (head ++ colon :: tail).splitOn colon =
    head.splitOn colon ++ tail.splitOn colon := by
  simp only [splitOn_eq_splitOnP]
  exact splitOnP_append_cons _ _ (by decide)

theorem split_on_filled (text : Bytes) : 0 < (text.splitOn colon).length :=
  length_pos_iff.mpr (by rw [splitOn_eq_splitOnP]; exact splitOnP_ne_nil _ _)

theorem split_on_colon {text : Bytes} (inside : colon ∈ text) : 1 < (text.splitOn colon).length := by
  obtain ⟨head, tail, rfl⟩ := append_of_mem inside
  have first := split_on_filled head
  have second := split_on_filled tail
  rw [split_on_append, length_append]
  omega

theorem split_on_plain (text : Bytes) (apart : colon ∉ text) : text.splitOn colon = [text] := by
  rw [splitOn_eq_splitOnP]
  refine splitOnP_eq_singleton fun byte listed => beq_eq_false_iff_ne.mpr fun same => apart ?_
  rw [← same]
  exact listed

theorem decode_status_v1 (opId digest sealedBytes : Str) :
    ReplicatedEnvelope.decodeStatus (statusV1 opId digest sealedBytes) =
      decodeV1 (opId ++ colon :: (digest ++ colon :: sealedBytes)) := by
  have other : stripPrefix envelopeV2Prefix (statusV1 opId digest sealedBytes) = none := rfl
  rw [ReplicatedEnvelope.decodeStatus, other, statusV1, strip_prefix_append]

-- The split yields three fields only when none of the texts holds the delimiter.
theorem decode_v1_accepted {opId digest sealedBytes : Str} {envelope : ReplicatedEnvelope}
    (accepted : decodeV1 (opId ++ colon :: (digest ++ colon :: sealedBytes)) = .ok envelope) :
    colon ∉ opId ∧ fromEncodedFields opId digest sealedBytes = .ok envelope := by
  unfold decodeV1 at accepted
  split at accepted
  case h_1 first second third fields =>
    have pieces := congrArg List.length fields
    simp only [split_on_append, length_append, length_cons, length_nil] at pieces
    have filled := And.intro (split_on_filled opId) (And.intro (split_on_filled digest) (split_on_filled sealedBytes))
    have operationPlain : colon ∉ opId := fun inside => by
      have := split_on_colon inside
      omega
    have digestPlain : colon ∉ digest := fun inside => by
      have := split_on_colon inside
      omega
    have sealedPlain : colon ∉ sealedBytes := fun inside => by
      have := split_on_colon inside
      omega
    rw [split_on_append, split_on_append, split_on_plain _ operationPlain, split_on_plain _ digestPlain, split_on_plain _ sealedPlain] at fields
    cases fields
    exact ⟨operationPlain, accepted⟩
  case h_2 => cases accepted

theorem hex_digit_value (byte : UInt8) (digit : asciiHexdigit byte = true) : hexValue byte < 16 ∧
    hexDigit (hexValue byte) = asciiLower byte := by
  have checked : ∀ value : Fin 256, asciiHexdigit (UInt8.ofNat value.val) = true → hexValue (UInt8.ofNat value.val) < 16 ∧
        hexDigit (hexValue (UInt8.ofNat value.val)) = asciiLower (UInt8.ofNat value.val) := by decide +kernel
  have here := checked ⟨byte.toNat, byte.toNat_lt⟩
  rw [UInt8.ofNat_toNat] at here
  exact here digit

theorem hex_bytes_pairs (text : Bytes) (even : text.length % 2 = 0) (digits : text.all asciiHexdigit = true) :
    hexBytes (hexPairs text) = text.map asciiLower := by
  induction text using hexPairs.induct with
  | case1 high low _ ih =>
    simp only [all_cons, Bool.and_eq_true] at digits
    obtain ⟨highDigit, lowDigit, restDigits⟩ := digits
    obtain ⟨_, highText⟩ := hex_digit_value high highDigit
    obtain ⟨_, lowText⟩ := hex_digit_value low lowDigit
    have joined : (UInt8.ofNat (16 * hexValue high + hexValue low)).toNat = 16 * hexValue high + hexValue low :=
      UInt8.toNat_ofNat_of_lt' (show _ < 256 by omega)
    have upper : (16 * hexValue high + hexValue low) / 16 = hexValue high := by omega
    have lower : (16 * hexValue high + hexValue low) % 16 = hexValue low := by omega
    have later := ih (by simp only [length_cons] at even; omega) restDigits
    simp only [hexBytes] at later
    simp only [hexPairs, hexBytes, flatMap_cons, joined, upper, lower, highText, lowText, later, map_cons, cons_append, nil_append]
  | case2 text short =>
    rcases text with _ | ⟨_, _ | _⟩
    · rfl
    · simp at even
    · exact absurd rfl (short _ _ _)

theorem decode_hex_accepted (text : Str) (bytes : Bytes) (accepted : decodeHex text = .ok bytes) :
    hexBytes bytes = text.map asciiLower := by
  unfold decodeHex at accepted
  split at accepted
  · cases accepted
  · rename_i refused
    simp only [not_or, not_not, Bool.not_eq_false] at refused
    cases accepted
    exact hex_bytes_pairs text refused.2.1 refused.2.2

theorem from_encoded_fields_accepted (opId digest sealedBytes : Str) (envelope : ReplicatedEnvelope)
    (accepted : fromEncodedFields opId digest sealedBytes = .ok envelope) :
    envelope.operationId = opId ∧ hexBytes envelope.digest.bytes = digest.map asciiLower ∧
      hexBytes envelope.sealedBytes = sealedBytes.map asciiLower := by
  unfold fromEncodedFields decodeHexDigest at accepted
  cases readDigest : decodeHex digest with
  | error => rw [readDigest] at accepted; cases accepted
  | ok digestBytes =>
    by_cases size : digestBytes.length = 32
    case neg => simp [readDigest, size, bind, Except.bind] at accepted
    cases readSealed : decodeHex sealedBytes with
    | error => simp [readDigest, readSealed, size, bind, Except.bind] at accepted
    | ok =>
      simp only [readDigest, readSealed, size, bind, Except.bind, dite_true] at accepted
      obtain ⟨sameId, sameDigest, sameSealed⟩ := envelope_fields accepted
      rw [sameId, sameDigest, sameSealed]
      exact ⟨rfl, decode_hex_accepted _ _ readDigest, decode_hex_accepted _ _ readSealed⟩

/-- Status texts decode to the envelope they were written for, in both formats. -/
theorem replicated_envelope_encoding : (∀ envelope : ReplicatedEnvelope,
    ReplicatedEnvelope.decodeStatus envelope.encodedStatus = .ok envelope) ∧
    (∀ envelope other : ReplicatedEnvelope, envelope ≠ other → envelope.encodedStatus ≠ other.encodedStatus) ∧
    (∀ (opId digest sealedBytes : Str) (envelope : ReplicatedEnvelope),
      ReplicatedEnvelope.decodeStatus (statusV1 opId digest sealedBytes) = .ok envelope →
        envelope.operationId = opId ∧ hexBytes envelope.digest.bytes = digest.map asciiLower ∧
          hexBytes envelope.sealedBytes = sealedBytes.map asciiLower) ∧
    (∀ (opId digest sealedBytes : Str) (envelope : ReplicatedEnvelope), colon ∈ opId →
      ReplicatedEnvelope.decodeStatus (statusV1 opId digest sealedBytes) ≠ .ok envelope) := by
  refine ⟨decode_encoded_status, ?_, ?_, ?_⟩
  · intro envelope other distinct same
    exact distinct (encoded_status_injective envelope other same)
  · intro opId digest sealedBytes envelope accepted
    rw [decode_status_v1] at accepted
    exact from_encoded_fields_accepted _ _ _ envelope (decode_v1_accepted accepted).2
  · intro opId digest sealedBytes envelope inside accepted
    rw [decode_status_v1] at accepted
    exact (decode_v1_accepted accepted).1 inside

def legacyEnvelope : ReplicatedEnvelope :=
  ⟨str "op", ⟨replicate 32 17, rfl⟩, [171], by decide, by decide, by decide⟩

-- The V1 reader does accept a text: one sealed byte, in capitals.
theorem replicated_envelope_encoding_legacy :
    ReplicatedEnvelope.decodeStatus (statusV1 (str "op") (replicate 64 49) (str "AB")) = .ok legacyEnvelope ∧
      hexBytes legacyEnvelope.sealedBytes = str "ab" := by
  have accepted : ReplicatedEnvelope.decodeStatus (statusV1 (str "op") (replicate 64 49) (str "AB")) =
      .ok legacyEnvelope := by decide
  exact ⟨accepted, (replicated_envelope_encoding.2.2.1 _ _ _ _ accepted).2.2⟩

end HeptaBao.Raft
