import HeptaBao.Hash.Digests
import HeptaBao.Wire.Inversion
import HeptaBao.Peer.Membership

namespace HeptaBao.Peer

open Wire Wire.Reader Durable List

def maxClusterIdBytes : Nat := 128
def maxPayloadBytes : Nat := 1024 * 1024
def peerFrameMagic : Bytes := str "HBPF1"

-- A String of the source: bytes that are known to be UTF-8.
@[ext]
structure Text where
  bytes : Str
  valid : utf8Valid bytes = true
deriving DecidableEq

def Text.fromUtf8 (bytes : Bytes) : Except HaError Text :=
  if valid : utf8Valid bytes = true then .ok ⟨bytes, valid⟩ else .error .invalidFrame

inductive PeerMessageKind where
  | forwardRequest
  | forwardResponse
  | readIndex
  | snapshotChunk
  | membership
deriving DecidableEq

def PeerMessageKind.tag : PeerMessageKind → UInt8
  | forwardRequest => 1
  | forwardResponse => 2
  | readIndex => 3
  | snapshotChunk => 4
  | membership => 5

def PeerMessageKind.decode (value : UInt8) : Except HaError PeerMessageKind :=
  if value = 1 then .ok .forwardRequest
  else if value = 2 then .ok .forwardResponse
  else if value = 3 then .ok .readIndex
  else if value = 4 then .ok .snapshotChunk
  else if value = 5 then .ok .membership
  else .error .invalidFrame

@[ext]
structure PeerEnvelope where
  clusterId : Text
  sender : NodeId
  receiver : NodeId
  term : UInt64
  sequence : UInt64
  kind : PeerMessageKind
  payload : Bytes
  tag : Digest
deriving DecidableEq

def sized (text : Bytes) : Bytes := big 2 text.length ++ text

-- A NodeId has at most 128 bytes, so the narrowing of the lengths cannot fail.
def encodeEnvelopeBody (clusterId : Text) (sender receiver : NodeId) (term seq : UInt64) (kind : PeerMessageKind)
    (payload : Bytes) : Except HaError Bytes :=
  if clusterId.bytes = [] ∨ maxClusterIdBytes < clusterId.bytes.length ∨ maxPayloadBytes < payload.length then
    .error .invalidFrame
  else
    .ok (peerFrameMagic ++ (sized clusterId.bytes ++ (sized sender.value ++ (sized receiver.value ++
      (big 8 term.toNat ++ (big 8 seq.toNat ++ ([kind.tag] ++ (big 4 payload.length ++ payload))))))))

def PeerEnvelope.body (envelope : PeerEnvelope) : Except HaError Bytes :=
  encodeEnvelopeBody envelope.clusterId envelope.sender envelope.receiver envelope.term envelope.sequence envelope.kind
    envelope.payload

def encodePeerEnvelope (envelope : PeerEnvelope) : Except HaError Bytes := do
  let body ← envelope.body
  return body ++ envelope.tag.bytes

def takeString (maximum : Nat) : Reader HaError Text := do
  let length ← bigEndian .invalidFrame 2
  lift (if length = 0 ∨ maximum < length then .error .invalidFrame else .ok ())
  let bytes ← exact .invalidFrame length
  lift (Text.fromUtf8 bytes)

def takeNode : Reader HaError NodeId := do
  let text ← takeString maxNodeIdBytes
  lift (NodeId.parse text.bytes)

def takeU64 : Reader HaError UInt64 := do
  let value ← bigEndian .invalidFrame 8
  return UInt64.ofNat value

def takeKind : Reader HaError PeerMessageKind := do
  let byte ← exact .invalidFrame 1
  lift (PeerMessageKind.decode (byte.headD 0))

-- Payload and tag end the frame, so their lengths are compared with all that is left.
def takeEnd (payloadLen : Nat) : Reader HaError (Bytes × Digest) := fun rest =>
  if maxPayloadBytes < payloadLen then .error .invalidFrame
  else if fits : rest.length = payloadLen + 32 then
    .ok ((rest.take payloadLen, ⟨rest.drop payloadLen, by rw [length_drop]; omega⟩), [])
  else .error .invalidFrame

def takeFields : Reader HaError PeerEnvelope := do
  let clusterId ← takeString maxClusterIdBytes
  let sender ← takeNode
  let receiver ← takeNode
  let term ← takeU64
  let seq ← takeU64
  let kind ← takeKind
  let payloadLen ← bigEndian .invalidFrame 4
  let ending ← takeEnd payloadLen
  return ⟨clusterId, sender, receiver, term, seq, kind, ending.1, ending.2⟩

def decodePeerEnvelope (frame : Bytes) : Except HaError PeerEnvelope :=
  if frame.length < 5 + 2 + 2 + 2 + 8 + 8 + 1 + 4 + 32 ∨ maxPayloadBytes + 4096 < frame.length ∨
      frame.take 5 ≠ peerFrameMagic then .error .invalidFrame
  else do
    let (envelope, _) ← takeFields (frame.drop 5)
    if envelope.term = 0 ∨ envelope.sequence = 0 then .error .invalidFrame else .ok envelope

theorem NodeId.size (node : NodeId) : 0 < node.value.length ∧ node.value.length ≤ maxNodeIdBytes := by
  have accepted := node.accepted
  simp only [nodeIdAccepted, Bool.and_eq_true, decide_eq_true_eq] at accepted
  exact ⟨length_pos_iff.mpr accepted.1.1, accepted.1.2⟩

theorem node_utf8 (node : NodeId) : utf8Valid node.value = true := by
  have accepted := node.accepted
  simp only [nodeIdAccepted, Bool.and_eq_true, decide_eq_true_eq] at accepted
  refine ascii_utf8 _ (all_eq_true.mpr fun byte listed => ?_)
  exact decide_eq_true (segment_byte_ascii (all_eq_true.mp accepted.2 byte listed))

theorem take_string_reads (maximum : Nat) (text : Text) (filled : 0 < text.bytes.length)
    (fits : text.bytes.length ≤ maximum) (small : maximum < 65536) : Reads (takeString maximum)
    (sized text.bytes) text := by
  refine reads_bind (reads_big .invalidFrame 2 _ (by omega)) ?_
  refine reads_check (if_neg (by omega)) ?_
  rw [← append_nil text.bytes]
  refine reads_bind (reads_exact _ _ _ (by simp)) (reads_lift _ _ ?_)
  exact dif_pos text.valid

theorem take_node_reads (node : NodeId) : Reads takeNode (sized node.value) node := by
  have read := take_string_reads maxNodeIdBytes ⟨node.value, node_utf8 node⟩ node.size.1 node.size.2 (by decide)
  rw [← append_nil (sized node.value)]
  exact reads_bind read (reads_lift _ _ (dif_pos node.accepted))

theorem take_u64_reads (value : UInt64) : Reads takeU64 (big 8 value.toNat) value := by
  have read := reads_map (bigEndian HaError.invalidFrame 8) UInt64.ofNat _ _ (reads_big HaError.invalidFrame 8 value.toNat value.toNat_lt)
  rwa [UInt64.ofNat_toNat] at read

theorem kind_decode_tag (kind : PeerMessageKind) : PeerMessageKind.decode kind.tag = .ok kind := by
  cases kind <;> rfl

theorem take_kind_reads (kind : PeerMessageKind) : Reads takeKind [kind.tag] kind := by
  rw [← append_nil [kind.tag]]
  exact reads_bind (reads_exact _ _ _ rfl) (reads_lift _ _ (kind_decode_tag kind))

theorem take_end_self (payload : Bytes) (tag : Digest) (fits : payload.length ≤ maxPayloadBytes) :
    takeEnd payload.length (payload ++ tag.bytes) = .ok ((payload, tag), []) := by
  have size : (payload ++ tag.bytes).length = payload.length + 32 := by rw [length_append, tag.size]
  rw [takeEnd, if_neg (by omega), dif_pos size]
  simp

variable {envelope : PeerEnvelope}

theorem body_ok {body : Bytes} (encoded : envelope.body = .ok body) :
    0 < envelope.clusterId.bytes.length ∧ envelope.clusterId.bytes.length ≤ maxClusterIdBytes ∧
      envelope.payload.length ≤ maxPayloadBytes ∧
      body = peerFrameMagic ++ (sized envelope.clusterId.bytes ++ (sized envelope.sender.value ++
        (sized envelope.receiver.value ++ (big 8 envelope.term.toNat ++ (big 8 envelope.sequence.toNat ++
          ([envelope.kind.tag] ++ (big 4 envelope.payload.length ++ envelope.payload))))))) := by
  unfold PeerEnvelope.body encodeEnvelopeBody at encoded
  split at encoded
  · cases encoded
  · rename_i bounds
    simp only [not_or, Nat.not_lt] at bounds
    cases encoded
    exact ⟨length_pos_iff.mpr bounds.1, bounds.2.1, bounds.2.2, rfl⟩

theorem take_fields_body {body : Bytes} (encoded : envelope.body = .ok body) :
    takeFields ((body ++ envelope.tag.bytes).drop 5) = .ok (envelope, []) := by
  obtain ⟨filled, fits, payloadFits, rfl⟩ := body_ok encoded
  have bounded : envelope.payload.length < 256 ^ 4 := by
    unfold maxPayloadBytes at payloadFits
    omega
  have lead (rest : Bytes) : (peerFrameMagic ++ rest).drop 5 = rest := rfl
  simp only [append_assoc, lead]
  rw [takeFields, bind_reads (take_string_reads _ _ filled fits (by decide)), bind_reads (take_node_reads _),
    bind_reads (take_node_reads _), bind_reads (take_u64_reads _), bind_reads (take_u64_reads _),
    bind_reads (take_kind_reads _), bind_reads (reads_big _ _ _ bounded), bind_apply,
    take_end_self _ _ payloadFits]
  rfl

theorem text_inverse {bytes : Bytes} {text : Text} (read : Text.fromUtf8 bytes = .ok text) : text.bytes = bytes := by
  unfold Text.fromUtf8 at read
  split at read <;> cases read
  rfl

theorem parse_inverse {value : Str} {node : NodeId} (read : NodeId.parse value = .ok node) : node.value = value := by
  unfold NodeId.parse at read
  split at read <;> cases read
  rfl

variable {input rest : Bytes}

theorem take_string_inverse {maximum : Nat} {text : Text} (answered : takeString maximum input = .ok (text, rest)) :
    text.bytes ≠ [] ∧ text.bytes.length ≤ maximum ∧ input = sized text.bytes ++ rest := by
  obtain ⟨length, first, readLength, answered⟩ := bind_inverse answered
  obtain ⟨_, split⟩ := big_inverse readLength
  obtain ⟨_, second, checked, answered⟩ := bind_inverse answered
  obtain ⟨within, same⟩ := lift_inverse checked
  obtain ⟨bytes, third, readBytes, answered⟩ := bind_inverse answered
  obtain ⟨cut, size⟩ := exact_inverse readBytes
  obtain ⟨decoded, same'⟩ := lift_inverse answered
  rw [text_inverse decoded]
  split at within
  · cases within
  · rename_i bounds
    refine ⟨fun empty => bounds (.inl ?_), by omega, ?_⟩
    · rw [← size, empty, length_nil]
    · rw [split, same, cut, same', sized, size, append_assoc]

theorem take_node_inverse {node : NodeId} (answered : takeNode input = .ok (node, rest)) :
    input = sized node.value ++ rest := by
  obtain ⟨_, _, read, answered⟩ := bind_inverse answered
  obtain ⟨parsed, same⟩ := lift_inverse answered
  rw [parse_inverse parsed, ← same]
  exact (take_string_inverse read).2.2

theorem take_u64_inverse {value : UInt64} (answered : takeU64 input = .ok (value, rest)) :
    input = big 8 value.toNat ++ rest := by
  obtain ⟨_, _, read, answered⟩ := bind_inverse answered
  obtain ⟨small, split⟩ := big_inverse read
  cases answered
  rw [split, UInt64.toNat_ofNat_of_lt' small]

variable {kind : PeerMessageKind}

theorem kind_tag_decode {byte : UInt8} (read : PeerMessageKind.decode byte = .ok kind) : byte = kind.tag := by
  unfold PeerMessageKind.decode at read
  split_ifs at read with one two three four five <;> cases read <;> assumption

theorem take_kind_inverse (answered : takeKind input = .ok (kind, rest)) : input = [kind.tag] ++ rest := by
  obtain ⟨_, _, read, answered⟩ := bind_inverse answered
  obtain ⟨split, size⟩ := exact_inverse read
  obtain ⟨decoded, same⟩ := lift_inverse answered
  obtain ⟨_, rfl⟩ := length_eq_one_iff.mp size
  rw [split, same, ← kind_tag_decode decoded]
  rfl

theorem take_end_inverse {payloadLen : Nat} {ending : Bytes × Digest}
    (answered : takeEnd payloadLen input = .ok (ending, rest)) :
    ending.1.length = payloadLen ∧ payloadLen ≤ maxPayloadBytes ∧ input = ending.1 ++ ending.2.bytes := by
  unfold takeEnd at answered
  split at answered
  · cases answered
  split at answered
  · cases answered
    refine ⟨length_take_of_le (by omega), by omega, (take_append_drop _ _).symm⟩
  · cases answered

theorem take_fields_inverse (answered : takeFields input = .ok (envelope, rest)) : encodePeerEnvelope envelope =
    .ok (peerFrameMagic ++ input) := by
  obtain ⟨clusterId, _, readCluster, answered⟩ := bind_inverse answered
  obtain ⟨_, _, readSender, answered⟩ := bind_inverse answered
  obtain ⟨_, _, readReceiver, answered⟩ := bind_inverse answered
  obtain ⟨_, _, readTerm, answered⟩ := bind_inverse answered
  obtain ⟨_, _, readSequence, answered⟩ := bind_inverse answered
  obtain ⟨_, _, readKind, answered⟩ := bind_inverse answered
  obtain ⟨_, _, readLen, answered⟩ := bind_inverse answered
  obtain ⟨ending, _, readEnd, made⟩ := bind_inverse answered
  obtain ⟨filled, fits, rfl⟩ := take_string_inverse readCluster
  obtain ⟨size, _, rfl⟩ := take_end_inverse readEnd
  rw [take_node_inverse readSender, take_node_inverse readReceiver, take_u64_inverse readTerm, take_u64_inverse readSequence,
    take_kind_inverse readKind, (big_inverse readLen).2]
  cases made
  have within : ¬ (clusterId.bytes = [] ∨ maxClusterIdBytes < clusterId.bytes.length ∨ maxPayloadBytes < ending.1.length) := by
    simp only [not_or, Nat.not_lt]
    exact ⟨filled, fits, by omega⟩
  rw [encodePeerEnvelope, PeerEnvelope.body, encodeEnvelopeBody, if_neg within, size]
  simp only [bind, Except.bind, pure, Except.pure, append_assoc]

theorem decode_peer_envelope_iff (frame : Bytes) (envelope : PeerEnvelope) : decodePeerEnvelope frame = .ok envelope ↔
      encodePeerEnvelope envelope = .ok frame ∧ envelope.term ≠ 0 ∧ envelope.sequence ≠ 0 := by
  constructor
  · intro decoded
    unfold decodePeerEnvelope at decoded
    split at decoded
    · cases decoded
    rename_i bounds
    simp only [not_or, not_not] at bounds
    obtain ⟨⟨found, rest⟩, read, kept⟩ := bind_ok decoded
    dsimp only at kept
    have nonzero : ¬ (found.term = 0 ∨ found.sequence = 0) := fun zero => by
      rw [if_pos zero] at kept
      cases kept
    rw [if_neg nonzero] at kept
    cases kept
    have encoded := take_fields_inverse read
    rw [← bounds.2.2, take_append_drop] at encoded
    exact ⟨encoded, not_or.mp nonzero⟩
  · intro ⟨encoded, nonzero⟩
    obtain ⟨body, shaped, whole⟩ := bind_ok encoded
    cases whole
    have read := take_fields_body shaped
    obtain ⟨filled, fits, payloadFits, layout⟩ := body_ok shaped
    have magic : peerFrameMagic.length = 5 := rfl
    have size : (body ++ envelope.tag.bytes).length = 5 + 2 + 2 + 2 + 8 + 8 + 1 + 4 + 32 + envelope.clusterId.bytes.length +
        envelope.sender.value.length + envelope.receiver.value.length + envelope.payload.length := by
      simp only [layout, sized, length_append, big_length, length_cons, length_nil, envelope.tag.size, magic]
      omega
    have senderSize := envelope.sender.size.2
    have receiverSize := envelope.receiver.size.2
    have within : ¬ ((body ++ envelope.tag.bytes).length < 5 + 2 + 2 + 2 + 8 + 8 + 1 + 4 + 32 ∨
        maxPayloadBytes + 4096 < (body ++ envelope.tag.bytes).length ∨
        (body ++ envelope.tag.bytes).take 5 ≠ peerFrameMagic) := by
      simp only [not_or, not_not]
      unfold maxClusterIdBytes at fits
      unfold maxNodeIdBytes at senderSize receiverSize
      refine ⟨by omega, by omega, ?_⟩
      rw [layout]
      rfl
    rw [decodePeerEnvelope, if_neg within, read]
    exact if_neg (not_or.mpr nonzero)

-- The fields are private and only PeerAuthenticator::new fills them.
structure PeerAuthenticator where
  clusterId : Text
  keys : List (NodeId × Digest)
  clusterOk : clusterId.bytes ≠ [] ∧ clusterId.bytes.length ≤ maxClusterIdBytes
  keysOk : keys ≠ [] ∧ keys.length ≤ maxPeers ∧ ∀ entry ∈ keys, entry.2 ≠ zeroDigest

section Authentication

-- HMAC-SHA256 under a peer's key.
variable (sign : Digest → Bytes → Digest)

def PeerAuthenticator.seal (authenticator : PeerAuthenticator) (sender receiver : NodeId) (term seq : UInt64)
    (kind : PeerMessageKind) (payload : Bytes) : Except HaError PeerEnvelope :=
  if term = 0 ∨ seq = 0 ∨ maxPayloadBytes < payload.length then .error .invalidFrame
  else
    match authenticator.keys.lookup sender with
    | none => .error .unknownPeer
    | some key => do
      let body ← encodeEnvelopeBody authenticator.clusterId sender receiver term seq kind payload
      return ⟨authenticator.clusterId, sender, receiver, term, seq, kind, payload, sign key body⟩

theorem seal_ok {authenticator : PeerAuthenticator} {sender receiver : NodeId} {term seq : UInt64} {payload : Bytes}
    (sealed : authenticator.seal sign sender receiver term seq kind payload = .ok envelope) :
    (term ≠ 0 ∧ seq ≠ 0) ∧ ∃ key body, authenticator.keys.lookup sender = some key ∧ envelope.body = .ok body ∧
      envelope = ⟨authenticator.clusterId, sender, receiver, term, seq, kind, payload, sign key body⟩ := by
  unfold PeerAuthenticator.seal at sealed
  split at sealed
  · cases sealed
  rename_i bounds
  simp only [not_or] at bounds
  cases known : authenticator.keys.lookup sender with
  | none =>
    rw [known] at sealed
    cases sealed
  | some key =>
    rw [known] at sealed
    obtain ⟨body, encoded, made⟩ := bind_ok sealed
    cases made
    exact ⟨⟨bounds.1, bounds.2.1⟩, key, body, rfl, encoded, rfl⟩

/-- Frames and envelopes determine each other. -/
theorem peer_frame_codec : (∀ (authenticator : PeerAuthenticator) (sender receiver : NodeId) (term seq : UInt64)
    (kind : PeerMessageKind)
      (payload : Bytes) (envelope : PeerEnvelope), authenticator.seal sign sender receiver term seq kind payload =
        .ok envelope →
        ∃ frame, encodePeerEnvelope envelope = .ok frame ∧ decodePeerEnvelope frame = .ok envelope) ∧
    (∀ (frame : Bytes) (envelope : PeerEnvelope), decodePeerEnvelope frame = .ok envelope →
      encodePeerEnvelope envelope = .ok frame) ∧
    (∀ (frame other : Bytes) (envelope : PeerEnvelope), decodePeerEnvelope frame = .ok envelope →
      decodePeerEnvelope other = .ok envelope → frame = other) := by
  refine ⟨?_, ?_, ?_⟩
  · intro authenticator sender receiver term seq kind payload envelope sealed
    obtain ⟨nonzero, _, body, _, encoded, made⟩ := seal_ok sign sealed
    have whole : encodePeerEnvelope envelope = .ok (body ++ envelope.tag.bytes) := by
      rw [encodePeerEnvelope, encoded]
      rfl
    refine ⟨_, whole, (decode_peer_envelope_iff _ _).mpr ⟨whole, ?_⟩⟩
    rw [made]
    exact nonzero
  · intro frame envelope decoded
    exact ((decode_peer_envelope_iff frame envelope).mp decoded).1
  · intro frame other envelope decoded decodedOther
    have first := ((decode_peer_envelope_iff frame envelope).mp decoded).1
    rw [((decode_peer_envelope_iff other envelope).mp decodedOther).1] at first
    exact (Except.ok.inj first).symm

end Authentication

def sampleKey : Digest := ⟨replicate 32 7, rfl⟩

def sampleAuthenticator : PeerAuthenticator :=
  ⟨⟨str "c", by decide⟩, [(voterA, sampleKey)], by decide, by decide⟩

theorem peer_frame_codec_forwarded :
    ∃ envelope frame, sampleAuthenticator.seal (fun key => hmacSha256 key.bytes) voterA voterB 1 1 .forwardRequest
      (str "request") = .ok envelope ∧
      encodePeerEnvelope envelope = .ok frame ∧ decodePeerEnvelope frame = .ok envelope := by
  cases sealed : sampleAuthenticator.seal (fun key => hmacSha256 key.bytes) voterA voterB 1 1 .forwardRequest (str "request") with
  | error => cases sealed
  | ok envelope =>
    obtain ⟨frame, encoded, decoded⟩ := (peer_frame_codec fun key => hmacSha256 key.bytes).1 sampleAuthenticator voterA voterB 1 1
      .forwardRequest (str "request") envelope sealed
    exact ⟨envelope, frame, rfl, encoded, decoded⟩

end HeptaBao.Peer
