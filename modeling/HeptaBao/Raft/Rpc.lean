import HeptaBao.Raft.JsonForm

namespace HeptaBao.Raft

open Wire Wire.Json Durable List Tail

def maxRemoteRpcBytes : Nat := 768 * 1024

structure AppendEntriesRequest where
  vote : Vote
  prevLogId : Option LogId
  entries : List Entry
  leaderCommit : Option LogId

-- RemoteNetworkFactory::new refuses any other topology.
structure RemoteNetworkFactory where
  localId : Nat
  peers : List Nat
  localOk : localId ≠ 0 ∧ localId ∈ peers
  peersOk : 3 ≤ peers.dedup.length ∧ 0 ∉ peers

structure RemoteNetwork where
  source : Nat
  target : Nat
  peers : List Nat

def RemoteNetworkFactory.newClient (factory : RemoteNetworkFactory) (target : Nat) : RemoteNetwork :=
  ⟨factory.localId, target, factory.peers⟩

-- The conditions under which exchange hands the payload to the transport.
def RemoteNetwork.exchangeAccepts (network : RemoteNetwork) (payload : Bytes) (timeout : Nat) : Bool :=
  !(network.source = 0 || network.target = 0 || network.source = network.target || network.source ∉ network.peers ||
    network.target ∉ network.peers || payload = [] || maxRemoteRpcBytes < payload.length || timeout = 0)

structure RaftRpcService where
  localId : Nat
  peers : List Nat

-- The conditions under which handle looks at the payload at all.
def RaftRpcService.handleAccepts (svc : RaftRpcService) (source : Nat) (payload : Bytes) : Bool :=
  !(source = 0 || source = svc.localId || source ∉ svc.peers || payload = [] || maxRemoteRpcBytes < payload.length)

structure Carrier where
  vote : Vote
  prevLogId : Option LogId
  leaderCommit : Option LogId
  logId : LogId
  client : Str
  serial : Nat

def Carrier.request (carrier : Carrier) (status : Str) : AppendEntriesRequest :=
  ⟨carrier.vote, carrier.prevLogId, [⟨carrier.logId, .normal ⟨carrier.client, carrier.serial, status⟩⟩], carrier.leaderCommit⟩

-- serde_json copies the bytes of a text that needs no escaping.
def WritesVerbatim (serde : Serde AppendEntriesRequest) : Prop :=
  ∀ (carrier : Carrier) (status : Str), (∀ byte ∈ status, plain byte = true) →
    (serde.toVec (carrier.request status)).length = (serde.toVec (carrier.request [])).length + status.length

theorem rpc_accepts_iff {factory : RemoteNetworkFactory} {target timeout : Nat} {payload : Bytes}
    (filled : payload ≠ [])
    (member : target ∈ factory.peers) (other : target ≠ factory.localId) (waits : timeout ≠ 0) :
    ((factory.newClient target).exchangeAccepts payload timeout = true ∧
      (RaftRpcService.mk target factory.peers).handleAccepts factory.localId payload = true) ↔
        payload.length ≤ maxRemoteRpcBytes := by
  have targetOk : target ≠ 0 := fun zero => factory.peersOk.2 (zero ▸ member)
  simp [RemoteNetwork.exchangeAccepts, RaftRpcService.handleAccepts, RemoteNetworkFactory.newClient, factory.localOk.1,
    factory.localOk.2, targetOk, other.symm, member, filled, waits]

theorem encoded_status_plain (envelope : ReplicatedEnvelope) : ∀ byte ∈ envelope.encodedStatus, plain byte = true := by
  have digit : ∀ value, value < 16 → plain (hexDigit value) = true := by decide
  have hex : ∀ bytes, ∀ byte ∈ hexBytes bytes, plain byte = true := hex_bytes_all (plain · = true) digit
  have digits : ∀ byte ∈ decimal envelope.operationId.length, plain byte = true := fun byte member =>
    (by decide +kernel : ∀ byte : UInt8, asciiDigit byte = true → plain byte = true) byte (decimal_digits byte member)
  have accepted := envelope.operationOk
  simp only [operationIdAccepted, Bool.and_eq_true] at accepted
  have op : ∀ byte ∈ envelope.operationId, plain byte = true := fun byte member =>
    (by decide +kernel : ∀ byte : UInt8, identifierByte byte = true → plain byte = true) byte
      (all_eq_true.mp accepted.2 byte member)
  have lead : ∀ byte ∈ envelopeV2Prefix, plain byte = true := by decide +kernel
  have separator : plain colon = true := by decide
  intro byte member
  simp only [ReplicatedEnvelope.encodedStatus, mem_append, mem_cons] at member
  rcases member with inside | inside | rfl | inside | rfl | inside | rfl | inside
  · exact lead byte inside
  · exact digits byte inside
  · exact separator
  · exact op byte inside
  · exact separator
  · exact hex _ byte inside
  · exact separator
  · exact hex _ byte inside

def appendEntriesJson : Format AppendEntriesRequest :=
  (first (str "vote") voteJson (later (str "prev_log_id") optionLogIdJson
    (later (str "entries") (brackets entryJson (begins_with (by decide) fun _ => ⟨_, rfl⟩))
      (later (str "leader_commit") optionLogIdJson closing)))).toFormat.map
    (fun (vote, prev, entries, commit, _) => ⟨vote, prev, entries, commit⟩)
    (fun req => (req.vote, req.prevLogId, req.entries, req.leaderCommit, ())) (fun _ => rfl)

theorem append_entries_verbatim : WritesVerbatim (serdeOf appendEntriesJson) := by
  intro carrier status isPlain
  have shape : ∀ status, (serdeOf appendEntriesJson).toVec (carrier.request status) = str "\x7b\"vote\":" ++
      (voteJson.write carrier.vote ++ (str ",\"prev_log_id\":" ++ (optionLogIdJson.write carrier.prevLogId ++
        (str ",\"entries\":" ++ ((91 :: (entryJson.write ⟨carrier.logId, .normal ⟨carrier.client, carrier.serial, status⟩⟩ ++ [93])) ++
          (str ",\"leader_commit\":" ++ (optionLogIdJson.write carrier.leaderCommit ++ str "\x7d"))))))) := fun _ => rfl
  rw [shape, shape, entry_write, entry_write, normal_payload_write, normal_payload_write, client_request_write, client_request_write]
  simp only [text_write_plain status isPlain, text_write_plain [] (by simp), length_append, length_cons, length_nil]
  omega

end HeptaBao.Raft
