import HeptaBao.Raft.Envelope

namespace HeptaBao.Raft

open Wire Durable Std List

-- A log id orders by the leader that wrote the entry, then by position.
structure LogId where
  term : Nat
  nodeId : Nat
  index : Nat
deriving DecidableEq, Inhabited

def LogId.after (a b : LogId) : Bool :=
  b.term < a.term || (b.term = a.term && (b.nodeId < a.nodeId || (b.nodeId = a.nodeId && b.index < a.index)))

structure ClientRequest where
  client : Str
  serial : Nat
  status : Str
deriving DecidableEq, Inhabited

-- The voter sets of a configuration (two while it changes) and all its nodes.
structure Membership where
  configs : List (List Nat)
  nodes : List Nat
deriving DecidableEq, Inhabited

inductive EntryPayload where
  | blank
  | normal (data : ClientRequest)
  | membership (membership : Membership)
deriving DecidableEq, Inhabited

structure Entry where
  logId : LogId
  payload : EntryPayload
deriving DecidableEq, Inhabited

structure StoredMembership where
  logId : Option LogId
  membership : Membership
deriving DecidableEq, Inhabited

structure MemStoreStateMachine where
  lastAppliedLog : Option LogId
  lastMembership : StoredMembership
  clientStatus : ExtTreeMap Str Str

def MemStoreStateMachine.default : MemStoreStateMachine := ⟨none, ⟨none, [], []⟩, ∅⟩

-- The apply loop's body; the response is the status the client had before.
def MemStoreStateMachine.applyEntry (state : MemStoreStateMachine) (entry : Entry) :
    MemStoreStateMachine × Option Str :=
  match entry.payload with
  | .blank => ({ state with lastAppliedLog := some entry.logId }, none)
  | .normal data =>
    ({ state with lastAppliedLog := some entry.logId, clientStatus := state.clientStatus.insert data.client data.status },
      state.clientStatus[data.client]?)
  | .membership membership =>
    ({ state with lastAppliedLog := some entry.logId, lastMembership := ⟨some entry.logId, membership⟩ }, none)

def MemStoreStateMachine.applyLog (state : MemStoreStateMachine) (log : List Entry) : MemStoreStateMachine :=
  log.foldl (fun reached entry => (reached.applyEntry entry).1) state

theorem apply_log_append (state : MemStoreStateMachine) (first second : List Entry) :
    state.applyLog (first ++ second) = (state.applyLog first).applyLog second := foldl_append

theorem apply_log_snoc (state : MemStoreStateMachine) (log : List Entry) (entry : Entry) :
    state.applyLog (log ++ [entry]) = ((state.applyLog log).applyEntry entry).1 := by
  rw [apply_log_append]
  rfl

def writesOf (client : Str) (log : List Entry) : List ClientRequest :=
  log.filterMap fun entry =>
    match entry.payload with
    | .normal data => if data.client = client then some data else none
    | _ => none

theorem writes_of_append (client : Str) (first second : List Entry) :
    writesOf client (first ++ second) = writesOf client first ++ writesOf client second := filterMap_append

-- A client's status is that of its last write in the log.
theorem client_status_apply_log (state : MemStoreStateMachine) (client : Str) (log : List Entry) :
    (state.applyLog log).clientStatus[client]? =
      ((writesOf client log).getLast?.map (·.status)).or state.clientStatus[client]? := by
  induction log using reverseRecOn with
  | nil => rfl
  | append_singleton _ entry ih =>
    rw [apply_log_snoc, writes_of_append]
    obtain ⟨_, payload⟩ := entry
    cases payload with
    | blank | membership => simpa [MemStoreStateMachine.applyEntry, writesOf] using ih
    | normal data =>
      rw [MemStoreStateMachine.applyEntry]
      simp only
      rw [lookup_insert]
      by_cases same : data.client = client
      · simp [same, writesOf]
      · rw [if_neg same, ih]
        simp [writesOf, same]

def productionClientId : Str := str "heptabao-production-ha"

-- latest_envelope: a status that does not decode is an error, not an absence.
def MemStoreStateMachine.latestEnvelope (state : MemStoreStateMachine) :
    Except RaftRuntimeError (Option ReplicatedEnvelope) :=
  match state.clientStatus[productionClientId]? with
  | none => .ok none
  | some status => (ReplicatedEnvelope.decodeStatus status).map some

-- next_production_client_serial: u64::checked_add.
def MemStoreStateMachine.nextProductionClientSerial (state : MemStoreStateMachine) : Except RaftRuntimeError Nat :=
  match state.lastAppliedLog with
  | none => .ok 1
  | some logId => if logId.index + 1 < 2 ^ 64 then .ok (logId.index + 1) else .error .invalidSerial

end HeptaBao.Raft
