import HeptaBao.Ha.StandIn
import HeptaBao.Raft.Rpc

namespace HeptaBao.Ha

open Wire Wire.Json Durable Raft List

-- The cipher's output is its input and the tag.
def AppendsTag (lib : Library) : Prop :=
  ∀ key nonce aad plaintext ciphertext, lib.sealInPlaceAppendTag key nonce aad plaintext = some ciphertext →
    ciphertext.length = plaintext.length + tagBytes

theorem sealed_length {lib : Library} (appendsTag : AppendsTag lib) {codec : ClusterStateCodec} {nonce : Option Nonce}
    {opId : Str} {baseDigest : Digest} {plaintextState : Bytes} {proposal : ReplicatedStateProposal}
    (accepted : codec.sealState lib nonce opId baseDigest plaintextState = .ok proposal) :
    proposal.operationId = opId ∧ proposal.sealedBytes.length = 65 + plaintextState.length := by
  obtain ⟨drawn, _, _, _, isSealed⟩ := seal_state_ok accepted
  have tagged := appendsTag _ _ _ _ _ isSealed.encrypted
  refine ⟨isSealed.operation, ?_⟩
  rw [isSealed.layout]
  simp only [length_append, baseDigest.size, drawn.size, tagged, nonceBytes, tagBytes]
  rw [show magic.length = 5 from rfl]
  omega

def requestBytes (serde : Serde AppendEntriesRequest) (carrier : Carrier) (opId : Str) (plaintextState : Bytes) : Nat :=
  (serde.toVec (carrier.request [])).length + 202 + (decimal opId.length).length + opId.length + 2 * plaintextState.length

/-- Which proposals a leader can both append and send to its peers. -/
theorem append_transmittable_iff (serde : Serde AppendEntriesRequest) (verbatim : WritesVerbatim serde) (lib : Library)
    (appendsTag : AppendsTag lib) (codec : ClusterStateCodec) (nonce : Option Nonce) (opId : Str) (baseDigest : Digest)
    (plaintextState : Bytes) (proposal : ReplicatedStateProposal) (envelope : ReplicatedEnvelope)
    (accepted : codec.sealState lib nonce opId baseDigest plaintextState = .ok proposal)
    (enveloped : ReplicatedEnvelope.new proposal.operationId proposal.digest proposal.sealedBytes = .ok envelope)
    (carrier : Carrier) (factory : RemoteNetworkFactory) (target timeout : Nat) (member : target ∈ factory.peers)
    (other : target ≠ factory.localId) (waits : timeout ≠ 0) :
    ((factory.newClient target).exchangeAccepts (serde.toVec (carrier.request envelope.encodedStatus)) timeout = true ∧
      (RaftRpcService.mk target factory.peers).handleAccepts factory.localId
        (serde.toVec (carrier.request envelope.encodedStatus)) = true) ↔
      requestBytes serde carrier opId plaintextState ≤ maxRemoteRpcBytes := by
  obtain ⟨operation, length⟩ := sealed_length appendsTag accepted
  have fields := envelope_fields enveloped
  have status := encoded_status_length envelope
  have whole := verbatim carrier envelope.encodedStatus (encoded_status_plain envelope)
  rw [fields.1, fields.2.2, operation, length] at status
  have exactly : (serde.toVec (carrier.request envelope.encodedStatus)).length = requestBytes serde carrier opId plaintextState := by
    unfold requestBytes
    omega
  have filled : serde.toVec (carrier.request envelope.encodedStatus) ≠ [] := by
    intro empty
    rw [empty, length_nil] at whole
    omega
  rw [rpc_accepts_iff filled member other waits, exactly]

theorem stand_in_appends_tag : AppendsTag standIn := by
  intro key nonce aad plaintext ciphertext encrypted
  cases encrypted
  rw [length_append, stand_in_tag_length]

def sampleFactory : RemoteNetworkFactory := ⟨1, [1, 2, 3], by decide, by decide⟩

def sampleCarrier : Carrier := ⟨⟨1, 1, true⟩, none, none, ⟨1, 1, 0⟩, productionClientId, 1⟩

theorem sample_peers : 2 ∈ sampleFactory.peers ∧ 2 ≠ sampleFactory.localId := by decide

theorem small_state_transmittable :
    ∃ proposal envelope, standInCodec.sealState standIn (some standInNonce) (str "op-1") zeroDigest (str "a") =
      .ok proposal ∧
      ReplicatedEnvelope.new proposal.operationId proposal.digest proposal.sealedBytes = .ok envelope ∧
        ((sampleFactory.newClient 2).exchangeAccepts
          ((serdeOf appendEntriesJson).toVec (sampleCarrier.request envelope.encodedStatus)) 1 = true ∧
        (RaftRpcService.mk 2 sampleFactory.peers).handleAccepts sampleFactory.localId
          ((serdeOf appendEntriesJson).toVec (sampleCarrier.request envelope.encodedStatus)) = true) := by
  obtain ⟨proposal, accepted, _, _⟩ := seal_state_accepts standIn standInCodec standInNonce (str "op-1") zeroDigest (str "a")
    (fun aad => ⟨_, rfl, by rw [length_append, stand_in_tag_length]⟩) (by decide) (by decide) (by decide) (by decide +kernel)
  obtain ⟨envelope, enveloped⟩ := proposal_enveloped proposal
  refine ⟨proposal, envelope, accepted, enveloped, ?_⟩
  exact (append_transmittable_iff (serdeOf appendEntriesJson) append_entries_verbatim standIn stand_in_appends_tag standInCodec
    (some standInNonce) (str "op-1") zeroDigest (str "a") proposal envelope accepted enveloped sampleCarrier sampleFactory 2 1
    sample_peers.1 sample_peers.2 (by decide)).mpr (by decide +kernel)

-- The largest accepted state and its digest, which is too long to compute here.
def fullState : Bytes := replicate maxStateBytes 97

def fullDigest : Digest :=
  ⟨[74, 157, 140, 35, 45, 146, 135, 128, 243, 234, 199, 177, 144, 160, 145, 142,
    89, 157, 11, 217, 9, 47, 65, 185, 8, 121, 90, 147, 36, 53, 207, 146], rfl⟩

def fullLibrary : Library :=
  { standIn with sha256 := fun message => if message = fullState then fullDigest else standIn.sha256 message }

theorem full_digest_of (message : Bytes) (full : message = fullState) : fullLibrary.sha256 message = fullDigest :=
  if_pos full

-- That state is sealed, but its status alone is twice what a peer can be sent.
theorem full_state_untransmittable :
    ∃ proposal envelope, standInCodec.sealState fullLibrary (some standInNonce) (str "op-1") zeroDigest fullState =
      .ok proposal ∧
      ReplicatedEnvelope.new proposal.operationId proposal.digest proposal.sealedBytes = .ok envelope ∧
      ∀ carrier, maxRemoteRpcBytes < ((serdeOf appendEntriesJson).toVec
        (Carrier.request carrier envelope.encodedStatus)).length ∧
        ∀ target timeout, (sampleFactory.newClient target).exchangeAccepts
          ((serdeOf appendEntriesJson).toVec (carrier.request envelope.encodedStatus)) timeout = false := by
  have digest := full_digest_of fullState rfl
  have size : fullState.length = 786432 := length_replicate
  obtain ⟨proposal, accepted, _, length⟩ := seal_state_accepts fullLibrary standInCodec standInNonce (str "op-1") zeroDigest fullState
    (fun aad => ⟨_, rfl, by rw [length_append, stand_in_tag_length]⟩) (by decide) (ne_nil_of_length_pos (by omega))
    (by rw [size, maxStateBytes]) (by rw [digest]; decide)
  obtain ⟨envelope, enveloped⟩ := proposal_enveloped proposal
  refine ⟨proposal, envelope, accepted, enveloped, ?_⟩
  have status := encoded_status_length envelope
  rw [(envelope_fields enveloped).2.2, length, size] at status
  intro carrier
  have whole := append_entries_verbatim carrier envelope.encodedStatus (encoded_status_plain envelope)
  have beyond : maxRemoteRpcBytes < ((serdeOf appendEntriesJson).toVec (carrier.request envelope.encodedStatus)).length := by
    unfold maxRemoteRpcBytes
    omega
  refine ⟨beyond, fun target timeout => ?_⟩
  simp [RemoteNetwork.exchangeAccepts, beyond]

end HeptaBao.Ha
