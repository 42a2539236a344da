import HeptaBao.Durable.Codec
import HeptaBao.Wire.Text

namespace HeptaBao.Raft

open Wire Durable List

inductive RaftRuntimeError where
  | invalidEnvelope
  | invalidSerial
  | shutdown
  | consensus (message : Str)
deriving DecidableEq

def maxOperationIdBytes : Nat := 128
def maxSealedEnvelopeBytes : Nat := 1024 * 1024
def envelopeV1Prefix : Str := str "hbr1:"
def envelopeV2Prefix : Str := str "hbr2:"

def colon : UInt8 := 58

variable (opId : Str)

def operationIdAccepted : Bool :=
  opId ≠ [] && opId.length ≤ maxOperationIdBytes && opId.all identifierByte

-- Private fields that only ReplicatedEnvelope::new fills: its checks are fields.
@[ext]
structure ReplicatedEnvelope where
  operationId : Str
  digest : Digest
  sealedBytes : Bytes
  operationOk : operationIdAccepted operationId = true
  digestOk : digest ≠ zeroDigest
  sealedOk : sealedBytes ≠ [] ∧ sealedBytes.length ≤ maxSealedEnvelopeBytes
deriving DecidableEq

def ReplicatedEnvelope.new (digest : Digest) (sealedBytes : Bytes) :
    Except RaftRuntimeError ReplicatedEnvelope :=
  if accepted : operationIdAccepted opId = true ∧ digest ≠ zeroDigest ∧ (sealedBytes ≠ [] ∧ sealedBytes.length ≤ maxSealedEnvelopeBytes) then
    .ok ⟨opId, digest, sealedBytes, accepted.1, accepted.2.1, accepted.2.2⟩
  else .error .invalidEnvelope

-- str::parse::<usize> on a text of digits; leading zeros are accepted.
def parseUsize (digits : Bytes) : Option Nat :=
  if fromDecimal digits < 2 ^ 64 then some (fromDecimal digits) else none

def decodeHex (encoded : Str) : Except RaftRuntimeError Bytes :=
  if encoded = [] ∨ encoded.length % 2 ≠ 0 ∨ encoded.all asciiHexdigit = false then .error .invalidEnvelope
  else .ok (hexPairs encoded)

def decodeHexDigest (encoded : Str) : Except RaftRuntimeError Digest := do
  let decoded ← decodeHex encoded
  if size : decoded.length = 32 then .ok ⟨decoded, size⟩ else .error .invalidEnvelope

def fromEncodedFields (digest sealedBytes : Str) : Except RaftRuntimeError ReplicatedEnvelope := do
  let digest ← decodeHexDigest digest
  let sealedBytes ← decodeHex sealedBytes
  ReplicatedEnvelope.new opId digest sealedBytes

-- str::is_char_boundary inside the text: the byte does not continue a character.
def charBoundary (text : Bytes) (index : Nat) : Bool :=
  match text[index]? with
  | some byte => byte < 128 || 192 ≤ byte
  | none => index = text.length

def decodeV2 (rest : Str) : Except RaftRuntimeError ReplicatedEnvelope :=
  match splitOnce colon rest with
  | none => .error .invalidEnvelope
  | some (length, rest) =>
    if length = [] ∨ length.all asciiDigit = false then .error .invalidEnvelope
    else
      match parseUsize length with
      | none => .error .invalidEnvelope
      | some operationLen =>
        if operationLen = 0 ∨ maxOperationIdBytes < operationLen ∨ rest.length ≤ operationLen ∨
            charBoundary rest operationLen = false then .error .invalidEnvelope
        else
          match stripPrefix [colon] (rest.drop operationLen) with
          | none => .error .invalidEnvelope
          | some suffix =>
            match splitOnce colon suffix with
            | none => .error .invalidEnvelope
            | some (digest, sealedBytes) => fromEncodedFields (rest.take operationLen) digest sealedBytes

def decodeV1 (rest : Str) : Except RaftRuntimeError ReplicatedEnvelope :=
  match rest.splitOn colon with
  | [opId, digest, sealedBytes] => fromEncodedFields opId digest sealedBytes
  | _ => .error .invalidEnvelope

def ReplicatedEnvelope.decodeStatus (encoded : Str) : Except RaftRuntimeError ReplicatedEnvelope :=
  match stripPrefix envelopeV2Prefix encoded with
  | some rest => decodeV2 rest
  | none =>
    match stripPrefix envelopeV1Prefix encoded with
    | some rest => decodeV1 rest
    | none => .error .invalidEnvelope

def ReplicatedEnvelope.encodedStatus (envelope : ReplicatedEnvelope) : Str :=
  envelopeV2Prefix ++ (decimal envelope.operationId.length ++ (colon :: (envelope.operationId ++ (colon ::
    (hexBytes envelope.digest.bytes ++ (colon :: hexBytes envelope.sealedBytes))))))

theorem hex_digit_byte {value : Nat} (small : value < 16) :
    asciiHexdigit (hexDigit value) = true ∧ hexDigit value ≠ colon := by
  revert value
  decide

theorem decode_hex_bytes {bytes : Bytes} (nonempty : bytes ≠ []) : decodeHex (hexBytes bytes) = .ok bytes := by
  have positive : 0 < bytes.length := length_pos_iff.mpr nonempty
  have filled : hexBytes bytes ≠ [] := by
    intro empty
    have none := hex_bytes_length bytes
    rw [empty, length_nil] at none
    omega
  have even : (hexBytes bytes).length % 2 = 0 := by
    rw [hex_bytes_length]
    omega
  have digits : (hexBytes bytes).all asciiHexdigit = true :=
    all_eq_true.mpr (hex_bytes_all (asciiHexdigit · = true) (fun value small => (hex_digit_byte small).1) bytes)
  simp [decodeHex, filled, even, digits, hex_pairs_bytes]

theorem decode_hex_digest_bytes (digest : Digest) : decodeHexDigest (hexBytes digest.bytes) = .ok digest := by
  have nonempty : digest.bytes ≠ [] := fun empty => by
    have size := digest.size
    simp [empty] at size
  simp only [decodeHexDigest, decode_hex_bytes nonempty, bind, Except.bind]
  rw [dif_pos digest.size]

variable (envelope : ReplicatedEnvelope)

theorem envelope_new_self : ReplicatedEnvelope.new envelope.operationId envelope.digest envelope.sealedBytes =
    .ok envelope :=
  dif_pos ⟨envelope.operationOk, envelope.digestOk, envelope.sealedOk⟩

theorem envelope_fields {opId : Str} {digest : Digest} {sealedBytes : Bytes} {envelope : ReplicatedEnvelope}
    (accepted : ReplicatedEnvelope.new opId digest sealedBytes = .ok envelope) :
    envelope.operationId = opId ∧ envelope.digest = digest ∧ envelope.sealedBytes = sealedBytes := by
  unfold ReplicatedEnvelope.new at accepted
  split at accepted
  · cases accepted
    exact ⟨rfl, rfl, rfl⟩
  · cases accepted

theorem from_encoded_fields_self :
    fromEncodedFields envelope.operationId (hexBytes envelope.digest.bytes) (hexBytes envelope.sealedBytes) =
      .ok envelope := by
  simp only [fromEncodedFields, decode_hex_digest_bytes, decode_hex_bytes envelope.sealedOk.1, bind, Except.bind, envelope_new_self]

theorem decimal_small (value : Nat) (small : value < 2 ^ 64) : decimal value ≠ [] ∧ (decimal value).all asciiDigit =
    true ∧ colon ∉ decimal value ∧
      parseUsize (decimal value) = some value := by
  refine ⟨decimal_nonempty value, all_eq_true.mpr (decimal_digits), ?_, ?_⟩
  · intro member
    exact absurd (decimal_digits colon member) (by decide)
  · rw [parseUsize, from_decimal, if_pos small]

theorem operation_length : 0 < envelope.operationId.length ∧ envelope.operationId.length ≤ maxOperationIdBytes := by
  have accepted := envelope.operationOk
  simp only [operationIdAccepted, Bool.and_eq_true, decide_eq_true_eq] at accepted
  exact ⟨length_pos_iff.mpr accepted.1.1, accepted.1.2⟩

theorem decode_encoded_status : ReplicatedEnvelope.decodeStatus envelope.encodedStatus = .ok envelope := by
  obtain ⟨positive, bounded⟩ := operation_length envelope
  obtain ⟨digitsFilled, digitsOk, digitsApart, digitsRead⟩ :=
    decimal_small envelope.operationId.length (by unfold maxOperationIdBytes at bounded; omega)
  have digestApart : colon ∉ hexBytes envelope.digest.bytes := fun member =>
    hex_bytes_all (· ≠ colon) (fun value small => (hex_digit_byte small).2) _ colon member rfl
  have boundary : charBoundary (envelope.operationId ++ (colon :: (hexBytes envelope.digest.bytes ++
      (colon :: hexBytes envelope.sealedBytes)))) envelope.operationId.length = true := by
    simp [charBoundary, colon]
  simp only [ReplicatedEnvelope.decodeStatus, ReplicatedEnvelope.encodedStatus, strip_prefix_append, decodeV2,
    split_once_append colon _ _ digitsApart, digitsFilled, digitsOk, digitsRead]
  rw [if_neg (by simp), if_neg (by simp [boundary, bounded, length_pos_iff.mp positive])]
  simp only [drop_left, take_left]
  rw [show colon :: (hexBytes envelope.digest.bytes ++ colon :: hexBytes envelope.sealedBytes) =
    [colon] ++ (hexBytes envelope.digest.bytes ++ colon :: hexBytes envelope.sealedBytes) from rfl, strip_prefix_append]
  simp only [split_once_append colon _ _ digestApart, from_encoded_fields_self]

theorem encoded_status_injective (a b : ReplicatedEnvelope) (same : a.encodedStatus = b.encodedStatus) : a = b := by
  have decoded := decode_encoded_status a
  rw [same, decode_encoded_status] at decoded
  exact (Except.ok.inj decoded).symm

theorem encoded_status_length : envelope.encodedStatus.length =
      72 + (decimal envelope.operationId.length).length + envelope.operationId.length + 2 *
        envelope.sealedBytes.length := by
  have lead : envelopeV2Prefix.length = 5 := by decide
  simp only [ReplicatedEnvelope.encodedStatus, length_append, length_cons, hex_bytes_length, lead, envelope.digest.size]
  omega

end HeptaBao.Raft
