import HeptaBao.Ha.StateCodec
import HeptaBao.Raft.Machine
import HeptaBao.Exec.Runs

namespace HeptaBao.Ha

open Wire Durable Raft Exec

-- `seen` is not in the source: how much of the log was applied at the read.
inductive Stage where
  | leading
  | awaiting (readIndex : Nat)
  | linearized
  | based (seen : Nat)
  | ready (seen : Nat) (envelope : ReplicatedEnvelope) (serial : Nat)
  | proposed (position : Nat) (envelope : ReplicatedEnvelope)

structure Call where
  operationId : Str
  expectedBaseDigest : Digest
  bytes : Bytes
  stage : Stage

-- One process. Service and HaProcess have a mutex each, so it runs one call at a time.
structure Node where
  machine : MemStoreStateMachine
  applied : Nat
  call : Option Call

-- Raft: a log whose committed part never changes, a node whose writes are accepted.
structure Cluster where
  log : List Entry
  committed : Nat
  term : Nat
  leader : Option Nat
  nodes : Nat → Node

def Cluster.initial : Cluster := ⟨[], 0, 0, none, fun _ => ⟨.default, 0, none⟩⟩

inductive Event where
  | elect (leader : Option Nat) (kept : Nat)
  | commit (position : Nat)
  | appendBlank
  | appendMembership (membership : Membership)
  | applyNext (node : Nat)
  | installSnapshot (node source : Nat)
  | checkLeader (node : Nat) (believed : Option Nat) (opId : Str) (expectedBaseDigest : Digest) (bytes : Bytes)
  | startBarrier (node : Nat)
  | finishBarrier (node : Nat)
  | readLatest (node : Nat)
  | sealNext (node : Nat) (nonce : Option Nonce)
  | clientWrite (node : Nat)
  | finish (node : Nat)
  | abandon (node : Nat)

def Cluster.setNode (cluster : Cluster) (id : Nat) (node : Node) : Cluster :=
  { cluster with nodes := Function.update cluster.nodes id node }

def Cluster.appendEntry (cluster : Cluster) (writer : Nat) (payload : EntryPayload) : Cluster :=
  { cluster with log := cluster.log ++ [⟨⟨cluster.term, writer, cluster.log.length⟩, payload⟩] }

def Node.stay (node : Node) (call : Call) (stage : Stage) : Node := { node with call := some { call with stage := stage } }

def Node.quit (node : Node) : Node := { node with call := none }

variable (lib : Library) (codec : ClusterStateCodec)

variable (nonce : Option Nonce)

def nextEnvelope (call : Call) : Option ReplicatedEnvelope :=
  match codec.sealState lib nonce call.operationId call.expectedBaseDigest call.bytes with
  | .error _ => none
  | .ok proposal => (ReplicatedEnvelope.new proposal.operationId proposal.digest proposal.sealedBytes).toOption

-- One step of a call from its current stage. Every error ends the call.
def Node.sealStep (node : Node) (call : Call)
    (seen : Nat) : Node :=
  match nextEnvelope lib codec nonce call, node.machine.nextProductionClientSerial with
  | some envelope, .ok serial => node.stay call (.ready seen envelope serial)
  | _, _ => node.quit

def Node.readStep (node : Node) (call : Call) : Node :=
  match node.machine.latestEnvelope with
  | .error _ => node.quit
  | .ok none => node.stay call (.based node.applied)
  | .ok (some envelope) =>
    if envelope.digest ≠ call.expectedBaseDigest then node.quit else node.stay call (.based node.applied)

variable (envelope : ReplicatedEnvelope)

def writeRequest (serial : Nat) : ClientRequest :=
  ⟨productionClientId, serial, envelope.encodedStatus⟩

variable (cluster : Cluster)

def step : Event → Cluster
  | .elect leader kept =>
    -- a new leader's log keeps everything committed and maybe some of the rest
    { cluster with leader := leader, term := cluster.term + 1, log := cluster.log.take (max cluster.committed kept) }
  | .commit position => { cluster with committed := max cluster.committed (min position cluster.log.length) }
  | .appendBlank => cluster.appendEntry (cluster.leader.getD 0) .blank
  | .appendMembership membership => cluster.appendEntry (cluster.leader.getD 0) (.membership membership)
  | .applyNext id =>
    let node := cluster.nodes id
    if node.applied < cluster.committed then
      match cluster.log[node.applied]? with
      | some entry =>
        cluster.setNode id { node with machine := (node.machine.applyEntry entry).1, applied := node.applied + 1 }
      | none => cluster
    else cluster
  | .installSnapshot id source =>
    let node := cluster.nodes id
    let other := cluster.nodes source
    if node.applied < other.applied then
      cluster.setNode id { node with machine := other.machine, applied := other.applied }
    else cluster
  | .checkLeader id believed opId expectedBaseDigest bytes =>
    let node := cluster.nodes id
    match node.call with
    | some _ => cluster
    | none =>
      -- current_leader is the process's own view, which may be out of date
      if believed = some id then
        cluster.setNode id { node with call := some ⟨opId, expectedBaseDigest, bytes, .leading⟩ }
      else cluster
  | .startBarrier id =>
    match (cluster.nodes id).call with
    | some ⟨opId, base, bytes, .leading⟩ =>
      cluster.setNode id ((cluster.nodes id).stay ⟨opId, base, bytes, .leading⟩ (.awaiting cluster.committed))
    | _ => cluster
  | .finishBarrier id =>
    match (cluster.nodes id).call with
    | some ⟨opId, base, bytes, .awaiting readIndex⟩ =>
      if readIndex ≤ (cluster.nodes id).applied then
        cluster.setNode id ((cluster.nodes id).stay ⟨opId, base, bytes, .leading⟩ .linearized)
      else cluster
    | _ => cluster
  | .readLatest id =>
    match (cluster.nodes id).call with
    | some ⟨opId, base, bytes, .linearized⟩ =>
      cluster.setNode id ((cluster.nodes id).readStep ⟨opId, base, bytes, .linearized⟩)
    | _ => cluster
  | .sealNext id nonce =>
    match (cluster.nodes id).call with
    | some ⟨opId, base, bytes, .based seen⟩ =>
      cluster.setNode id ((cluster.nodes id).sealStep lib codec nonce ⟨opId, base, bytes, .based seen⟩ seen)
    | _ => cluster
  | .clientWrite id =>
    match (cluster.nodes id).call with
    | some ⟨opId, base, bytes, .ready seen envelope serial⟩ =>
      if cluster.leader = some id then
        (cluster.appendEntry id (.normal (writeRequest envelope serial))).setNode id
          ((cluster.nodes id).stay ⟨opId, base, bytes, .ready seen envelope serial⟩
            (.proposed cluster.log.length envelope))
      else cluster.setNode id (cluster.nodes id).quit
    | _ => cluster
  | .finish id =>
    match (cluster.nodes id).call with
    | some ⟨_, _, _, .proposed position _⟩ =>
      if position < cluster.committed then cluster.setNode id (cluster.nodes id).quit else cluster
    | _ => cluster
  | .abandon id => cluster.setNode id (cluster.nodes id).quit

def sealedBase : Except ReplicatedStateError Digest := do
  let proposal ← ReplicatedStateProposal.new envelope.operationId envelope.digest envelope.sealedBytes
  ClusterStateCodec.baseDigest proposal

-- The log's application entries, each derived from the one before it.
structure Chained (log : List Entry) (envelopes : List ReplicatedEnvelope) : Prop where
  statuses : (writesOf productionClientId log).map (·.status) = envelopes.map (·.encodedStatus)
  bases : envelopes.IsChain (fun first second => sealedBase second = .ok first.digest)

-- At its acceptance a write finds no application entry in the log, committed or not,
-- beyond those the node had applied when the call read.
def Undisturbed : Event → Prop
  | .clientWrite id =>
    match (cluster.nodes id).call with
    | some ⟨_, _, _, .ready seen _ _⟩ => cluster.leader = some id → writesOf productionClientId (cluster.log.drop seen) = []
    | _ => True
  | _ => True

end HeptaBao.Ha
