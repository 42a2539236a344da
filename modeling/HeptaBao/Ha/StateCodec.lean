import HeptaBao.Raft.Envelope

namespace HeptaBao.Ha

open Wire Durable List

inductive ReplicatedStateError where
  | invalidKey
  | invalidCluster
  | invalidState
  | invalidEnvelope
  | baseStateConflict
  | authenticationFailed
  | digestMismatch
  | randomnessUnavailable
deriving DecidableEq

-- SHA-256, AES-256-GCM with the tag appended to the ciphertext, and standard base64.
structure Library where
  sha256 : Bytes → Digest
  sealInPlaceAppendTag : Bytes → Bytes → Bytes → Bytes → Option Bytes
  openInPlace : Bytes → Bytes → Bytes → Bytes → Option Bytes
  base64Decode : Bytes → Option Bytes
  base64Encode : Bytes → Bytes

def magic : Bytes := str "HBSR1"
def nonceBytes : Nat := 12
def digestBytes : Nat := 32
def tagBytes : Nat := 16
def maxClusterIdBytes : Nat := 128
def maxStateBytes : Nat := 768 * 1024
def headerBytes : Nat := 5 + digestBytes + nonceBytes

-- [u8; 12]
structure Nonce where
  bytes : Bytes
  size : bytes.length = nonceBytes

@[ext]
structure ReplicatedStateProposal where
  operationId : Str
  digest : Digest
  sealedBytes : Bytes
  operationOk : Raft.operationIdAccepted operationId = true
  digestOk : digest ≠ zeroDigest
  sealedOk : headerBytes + tagBytes ≤ sealedBytes.length ∧ sealedBytes.length ≤ headerBytes + maxStateBytes + tagBytes

def ReplicatedStateProposal.new (opId : Str) (digest : Digest) (sealedBytes : Bytes) :
    Except ReplicatedStateError ReplicatedStateProposal :=
  if accepted : Raft.operationIdAccepted opId = true ∧ digest ≠ zeroDigest ∧
      (headerBytes + tagBytes ≤ sealedBytes.length ∧ sealedBytes.length ≤ headerBytes + maxStateBytes + tagBytes) then
    .ok ⟨opId, digest, sealedBytes, accepted.1, accepted.2.1, accepted.2.2⟩
  else .error .invalidEnvelope

structure ClusterStateCodec where
  clusterId : Str
  key : Bytes
  clusterOk : clusterId ≠ [] ∧ clusterId.length ≤ maxClusterIdBytes
  keyOk : key.length = 32 ∧ key ≠ replicate 32 0

def ClusterStateCodec.new (lib : Library) (clusterId : Str) (key : Digest) :
    Except ReplicatedStateError ClusterStateCodec :=
  let base64 : Bool :=
    match lib.base64Decode clusterId with
    | some bytes => bytes.length = 16 && lib.base64Encode bytes = clusterId
    | none => false
  if clusterOk : (clusterId ≠ [] ∧ clusterId.length ≤ maxClusterIdBytes) ∧ (clusterId.all segmentByte || base64) = true then
    if keyOk : key.bytes = replicate 32 0 then .error .invalidKey
    else .ok ⟨clusterId, key.bytes, clusterOk.1, key.size, keyOk⟩
  else .error .invalidCluster

-- u16::to_be_bytes of a length; a length beyond u16 is refused before.
def bigEndian16 (value : Nat) : Bytes := [UInt8.ofNat (value / 256), UInt8.ofNat value]

def ClusterStateCodec.aad (codec : ClusterStateCodec) (opId : Str) (baseDigest nextDigest : Digest) :
    Except ReplicatedStateError Bytes :=
  if opId = [] ∨ Raft.maxOperationIdBytes < opId.length then .error .invalidEnvelope
  else if 65536 ≤ codec.clusterId.length then .error .invalidCluster
  else if 65536 ≤ opId.length then .error .invalidEnvelope
  else .ok (magic ++ (bigEndian16 codec.clusterId.length ++ (codec.clusterId ++
    (bigEndian16 opId.length ++ (opId ++ (baseDigest.bytes ++ nextDigest.bytes))))))

-- The nonce is what SystemRandom::fill produced, or nothing when it failed.
def ClusterStateCodec.sealState (lib : Library) (codec : ClusterStateCodec) (nonce : Option Nonce) (opId : Str)
    (baseDigest : Digest) (plaintextState : Bytes) : Except ReplicatedStateError ReplicatedStateProposal :=
  if plaintextState = [] ∨ maxStateBytes < plaintextState.length then .error .invalidState
  else do
    let nextDigest := lib.sha256 plaintextState
    let aad ← codec.aad opId baseDigest nextDigest
    match nonce with
    | none => .error .randomnessUnavailable
    | some nonce =>
      match lib.sealInPlaceAppendTag codec.key nonce.bytes aad plaintextState with
      | none => .error .authenticationFailed
      | some ciphertext =>
        ReplicatedStateProposal.new opId nextDigest (magic ++ (baseDigest.bytes ++ (nonce.bytes ++ ciphertext)))

structure ValidatedEnvelope where
  baseDigest : Digest
  nonce : Nonce
  payloadOffset : Nat

def validateEnvelope (proposal : ReplicatedStateProposal) : Except ReplicatedStateError ValidatedEnvelope :=
  let sealedBytes := proposal.sealedBytes
  if sealedBytes.length < headerBytes + tagBytes ∨ headerBytes + maxStateBytes + tagBytes < sealedBytes.length then
    .error .invalidEnvelope
  else if sealedBytes.take 5 ≠ magic then .error .invalidEnvelope
  else if base : ((sealedBytes.drop 5).take digestBytes).length = 32 then
    if nonce : ((sealedBytes.drop (5 + digestBytes)).take nonceBytes).length = nonceBytes then
      .ok ⟨⟨_, base⟩, ⟨_, nonce⟩, 5 + digestBytes + nonceBytes⟩
    else .error .invalidEnvelope
  else .error .invalidEnvelope

def ClusterStateCodec.baseDigest (proposal : ReplicatedStateProposal) : Except ReplicatedStateError Digest :=
  (validateEnvelope proposal).map (·.baseDigest)

theorem proposal_new_ok (opId : Str) (digest : Digest) (sealedBytes : Bytes) (proposal : ReplicatedStateProposal)
    (accepted : ReplicatedStateProposal.new opId digest sealedBytes = .ok proposal) :
    proposal.operationId = opId ∧ proposal.digest = digest ∧ proposal.sealedBytes = sealedBytes := by
  unfold ReplicatedStateProposal.new at accepted
  split at accepted
  · cases accepted
    exact ⟨rfl, rfl, rfl⟩
  · cases accepted

theorem proposal_new_self (proposal : ReplicatedStateProposal) :
    ReplicatedStateProposal.new proposal.operationId proposal.digest proposal.sealedBytes = .ok proposal :=
  dif_pos ⟨proposal.operationOk, proposal.digestOk, proposal.sealedOk⟩

theorem proposal_enveloped (proposal : ReplicatedStateProposal) :
    ∃ envelope, Raft.ReplicatedEnvelope.new proposal.operationId proposal.digest proposal.sealedBytes =
      .ok envelope := by
  have limits : headerBytes = 49 ∧ tagBytes = 16 ∧ maxStateBytes = 786432 ∧ Raft.maxSealedEnvelopeBytes = 1048576 := by decide
  obtain ⟨atLeast, _⟩ := proposal.sealedOk
  have filled : proposal.sealedBytes ≠ [] := by
    intro empty
    rw [empty, length_nil] at atLeast
    omega
  exact ⟨_, dif_pos ⟨proposal.operationOk, proposal.digestOk, filled, by omega⟩⟩

structure Sealed (lib : Library) (codec : ClusterStateCodec) (opId : Str) (baseDigest : Digest)
    (plaintextState : Bytes) (proposal : ReplicatedStateProposal) (nonce : Nonce) (aad ciphertext : Bytes) : Prop where
  bounded : plaintextState ≠ [] ∧ plaintextState.length ≤ maxStateBytes
  bound : codec.aad opId baseDigest (lib.sha256 plaintextState) = .ok aad
  encrypted : lib.sealInPlaceAppendTag codec.key nonce.bytes aad plaintextState = some ciphertext
  operation : proposal.operationId = opId
  digest : proposal.digest = lib.sha256 plaintextState
  layout : proposal.sealedBytes = magic ++ (baseDigest.bytes ++ (nonce.bytes ++ ciphertext))

variable {lib : Library} {codec : ClusterStateCodec} {nonce : Option Nonce} {opId : Str}
  {plaintextState : Bytes}

theorem seal_state_ok {baseDigest : Digest} {proposal : ReplicatedStateProposal}
    (accepted : codec.sealState lib nonce opId baseDigest plaintextState = .ok proposal) : ∃ drawn aad ciphertext,
      nonce = some drawn ∧
      Sealed lib codec opId baseDigest plaintextState proposal drawn aad ciphertext := by
  unfold ClusterStateCodec.sealState at accepted
  split at accepted
  · cases accepted
  · rename_i bounded
    rw [not_or, Nat.not_lt] at bounded
    simp only [bind, Except.bind] at accepted
    cases bound : codec.aad opId baseDigest (lib.sha256 plaintextState) with
    | error => simp [bound] at accepted
    | ok aad =>
      simp only [bound] at accepted
      cases nonce with
      | none => cases accepted
      | some drawn =>
        simp only at accepted
        cases encrypted : lib.sealInPlaceAppendTag codec.key drawn.bytes aad plaintextState with
        | none => simp [encrypted] at accepted
        | some ciphertext =>
          simp only [encrypted] at accepted
          obtain ⟨op, digest, layout⟩ := proposal_new_ok _ _ _ _ accepted
          exact ⟨drawn, aad, ciphertext, rfl, bounded, bound, encrypted, op, digest, layout⟩

theorem validate_sealed {baseDigest : Digest} {proposal : ReplicatedStateProposal} {nonce : Nonce}
    {aad ciphertext : Bytes}
    (isSealed : Sealed lib codec opId baseDigest plaintextState proposal nonce aad ciphertext) :
    validateEnvelope proposal = .ok ⟨baseDigest, nonce, headerBytes⟩ := by
  have lead : magic.length = 5 := by decide
  have opening : proposal.sealedBytes.take 5 = magic := by
    rw [isSealed.layout, ← lead, take_left]
  have afterMagic : proposal.sealedBytes.drop 5 = baseDigest.bytes ++ (nonce.bytes ++ ciphertext) := by
    rw [isSealed.layout, ← lead, drop_left]
  have base : (proposal.sealedBytes.drop 5).take digestBytes = baseDigest.bytes := by
    rw [afterMagic, show digestBytes = baseDigest.bytes.length from baseDigest.size.symm, take_left]
  have drawn : (proposal.sealedBytes.drop (5 + digestBytes)).take nonceBytes = nonce.bytes := by
    rw [← drop_drop, afterMagic, show digestBytes = baseDigest.bytes.length from baseDigest.size.symm, drop_left, ← nonce.size, take_left]
  obtain ⟨_, _⟩ := proposal.sealedOk
  unfold validateEnvelope
  simp only
  rw [if_neg (by omega), if_neg (by simp [opening]), dif_pos (by rw [base]; exact baseDigest.size), dif_pos (by rw [drawn]; exact nonce.size)]
  simp [base, drawn, headerBytes]

theorem base_digest_sealed {baseDigest : Digest} {proposal : ReplicatedStateProposal}
    (accepted : codec.sealState lib nonce opId baseDigest plaintextState = .ok proposal) :
    ClusterStateCodec.baseDigest proposal = .ok baseDigest := by
  obtain ⟨_, _, _, _, isSealed⟩ := seal_state_ok accepted
  rw [ClusterStateCodec.baseDigest, validate_sealed isSealed]
  rfl

theorem seal_state_accepts (lib : Library) (codec : ClusterStateCodec) (nonce : Nonce) (opId : Str)
    (baseDigest : Digest)
    (plaintextState : Bytes) (tagged : ∀ aad, ∃ ciphertext, lib.sealInPlaceAppendTag codec.key nonce.bytes aad
      plaintextState = some ciphertext ∧
      ciphertext.length = plaintextState.length + tagBytes) (op : Raft.operationIdAccepted opId = true) (filled :
        plaintextState ≠ [])
    (bounded : plaintextState.length ≤ maxStateBytes) (digest : lib.sha256 plaintextState ≠ zeroDigest) :
    ∃ proposal, codec.sealState lib (some nonce) opId baseDigest plaintextState = .ok proposal ∧
      proposal.operationId = opId ∧ proposal.sealedBytes.length = headerBytes + plaintextState.length + tagBytes := by
  have accepted := op
  simp only [Raft.operationIdAccepted, Bool.and_eq_true, decide_eq_true_eq] at accepted
  obtain ⟨⟨operationFilled, operationShort⟩, _⟩ := accepted
  have clusterShort := codec.clusterOk.2
  have limits : Raft.maxOperationIdBytes = 128 ∧ maxClusterIdBytes = 128 := ⟨rfl, rfl⟩
  obtain ⟨aad, bound⟩ : ∃ aad, codec.aad opId baseDigest (lib.sha256 plaintextState) = .ok aad := by
    unfold ClusterStateCodec.aad
    rw [if_neg (by simp [operationFilled, operationShort]), if_neg (by omega), if_neg (by omega)]
    exact ⟨_, rfl⟩
  obtain ⟨ciphertext, encrypted, grown⟩ := tagged aad
  have length : (magic ++ (baseDigest.bytes ++ (nonce.bytes ++ ciphertext))).length = headerBytes + plaintextState.length + tagBytes := by
    simp only [length_append, baseDigest.size, nonce.size, grown, headerBytes, digestBytes]
    rw [show magic.length = 5 from rfl]
    omega
  refine ⟨⟨opId, lib.sha256 plaintextState, magic ++ (baseDigest.bytes ++ (nonce.bytes ++ ciphertext)), op,
    digest, by rw [length]; omega, by rw [length]; omega⟩, ?_, rfl, length⟩
  unfold ClusterStateCodec.sealState
  rw [if_neg (by simp [filled, bounded])]
  simp only [bind, Except.bind, bound, encrypted]
  exact dif_pos ⟨op, digest, by rw [length]; omega, by rw [length]; omega⟩

end HeptaBao.Ha
