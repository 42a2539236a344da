import HeptaBao.Exec.Action
import HeptaBao.Durable.Frames
import HeptaBao.Durable.Ledger

namespace HeptaBao.Durable

open Wire Std Exec Action

structure Disk where
  snapshot : Bytes
  journal : Bytes
  ledger : Bytes
deriving DecidableEq

inductive File where
  | snapshot
  | journal
  | ledger

def Disk.write (disk : Disk) (file : File) (bytes : Bytes) : Disk :=
  match file with
  | .snapshot => { disk with snapshot := bytes }
  | .journal => { disk with journal := bytes }
  | .ledger => { disk with ledger := bytes }

structure Service where
  snapshot : Snapshot
  ledger : Ledger
  reconciliation : ExtTreeMap Str ReconciliationStatus
  journalSequence : Nat
  journalBytes : Nat
  journalLimit : Nat
  maxRetainedRequests : Nat
  unresolved : Bool

-- A plan picks a durable step of the call and how much of it reaches the disk.
abbrev Plan := Option (Nat × Nat)

-- A method call's files, faults, nonces the barrier will draw, and live handle.
structure Machine where
  disk : Disk
  plan : Plan
  nonce : Nat
  service : Service

abbrev Method := Action Machine ServiceError

def onDisk (change : Disk → Disk) : Method Unit := Action.modify fun m => { m with disk := change m.disk }

def onService (change : Service → Service) : Method Unit := Action.modify fun m => { m with service := change m.service }

def drawNonces (count : Nat) : Method Unit := Action.modify fun m => { m with nonce := m.nonce + count }

def durable : Method (Option Nat) := fun m =>
  match m.plan with
  | none => (.ok none, m)
  | some (0, landed) => (.ok (some landed), { m with plan := none })
  | some (later + 1, landed) => (.ok none, { m with plan := some (later, landed) })

-- Temporary, sync, rename, directory sync: the target holds the old or the new bytes.
def atomicWrite (file : File) (bytes : Bytes) : Method Unit :=
  if maxFileBytes < bytes.length then fail .corruptState
  else do
    let fault ← durable
    match fault with
    | none => onDisk fun disk => disk.write file bytes
    | some landed => do
      onDisk fun disk => if landed = 0 then disk else disk.write file bytes
      fail .io

def journalStep (finished : Bytes → Bytes) (torn : Nat → Bytes → Bytes) : Method Unit := do
  let fault ← durable
  match fault with
  | none => onDisk fun disk => disk.write .journal (finished disk.journal)
  | some landed => do
    onDisk fun disk => disk.write .journal (torn landed disk.journal)
    fail .io

def appendJournalFrame (frame : Bytes) : Method Unit :=
  journalStep (fun journal => journal ++ frame) (fun landed journal => journal ++ frame.take landed)

def resize (length : Nat) (bytes : Bytes) : Bytes := bytes.take length ++ List.replicate (length - bytes.length) 0

def setJournalLength (length : Nat) : Method Unit :=
  journalStep (resize length) (fun landed journal => journal.take (length + landed))

def orFail {α : Type} (value : Option α) (flaw : ServiceError) : Method α :=
  lift (match value with
    | some found => .ok found
    | none => .error flaw)

def appendFrame (frame : Bytes) : Method Unit := do
  let m ← Action.read
  let next ← orFail (checkedAdd m.service.journalSequence 1) .generationOverflow
  let size ← orFail (checkedAdd m.service.journalBytes frame.length) .journalCapacityExhausted
  if m.service.journalLimit < size ∨ maxRecords < next then fail .journalCapacityExhausted
  else do
    appendJournalFrame frame
    onService fun svc => { svc with journalSequence := next, journalBytes := size }

variable (env : Env)

def appendEvent (event : JournalEvent) : Method Unit := do
  let m ← Action.read
  let seq ← orFail (checkedAdd m.service.journalSequence 1) .generationOverflow
  let frame ← lift (sealedJournalRecord env m.nonce seq event)
  drawNonces 1
  appendFrame frame

-- Everything execute prepares before its first durable step.
structure Admission where
  marker : CommitMarker
  candidate : Snapshot
  candidateLedger : Ledger
  snapshotBytes : Bytes
  ledgerBytes : Bytes
  intent : Bytes
  commit : Bytes

def recordOf (mark : CommitMarker) : LedgerRecord := ⟨mark.bindingDigest, mark.recoveryReference, mark.generation⟩

def mutateEntries (binding : Binding) (value : Option Bytes) (entries : Entries) : Except ServiceError Entries :=
  match binding.kind with
  | .put => match value with
      | none => .error .invalidSecret
      | some payload => .ok (entries.insert binding.storageKey payload)
  | .delete => .ok (entries.erase binding.storageKey)

def Service.nextMarker (svc : Service) (binding : Binding) : Except ServiceError CommitMarker :=
  match checkedAdd svc.snapshot.generation 1 with
  | none => .error .generationOverflow
  | some gen => match checkedAdd svc.journalSequence 1 with
      | none => .error .generationOverflow
      | some intentSequence => .ok ⟨binding.key, binding.digest env, recoveryReference env (binding.digest env) gen intentSequence, gen⟩

def Service.terminalSequence (svc : Service) : Except ServiceError Nat :=
  match checkedAdd (svc.journalSequence + 1) 1 with
  | none => .error .generationOverflow
  | some seq => .ok seq

variable (admission : Admission)

-- Both journal records are reserved before the first of them is written.
def Service.reserves (svc : Service) (admission : Admission) : Except ServiceError Unit :=
  if maxFileBytes < admission.snapshotBytes.length ∨ maxFileBytes < admission.ledgerBytes.length then
    .error .requestCapacityExhausted
  else if maxRecords < svc.journalSequence + 2 then .error .journalCapacityExhausted
  else match checkedAdd svc.journalBytes admission.intent.length with
    | none => .error .journalCapacityExhausted
    | some withIntent => match checkedAdd withIntent admission.commit.length with
        | none => .error .journalCapacityExhausted
        | some total => if svc.journalLimit < total then .error .journalCapacityExhausted else .ok ()

def Service.prepare (svc : Service) (nonce : Nat) (binding : Binding) (value : Option Bytes) :
    Except ServiceError Admission := do
  let mark ← svc.nextMarker env binding
  let terminal ← svc.terminalSequence
  let entries ← mutateEntries binding value svc.snapshot.entries
  let candidate : Snapshot := ⟨mark.generation, entries, some mark⟩
  let candidateLedger := svc.ledger.insert binding.key (recordOf mark)
  let snapshotBytes ← sealedSnapshot env nonce candidate
  let ledgerBytes ← sealedLedger env (nonce + 1) mark.generation candidateLedger
  let intent ← sealedJournalRecord env (nonce + 2) (svc.journalSequence + 1) (.intent mark)
  let commit ← sealedJournalRecord env (nonce + 3) terminal (.commit mark)
  let admission : Admission := ⟨mark, candidate, candidateLedger, snapshotBytes, ledgerBytes, intent, commit⟩
  svc.reserves admission
  return admission

def Service.examine (svc : Service) (nonce : Nat) (binding : Binding) (value : Option Bytes) :
    Except ServiceError (MutationOutcome ⊕ Admission) :=
  match svc.ledger[binding.key]? with
  | some existing =>
    if existing.bindingDigest ≠ binding.digest env then .error .requestBindingConflict
    else .ok (.inl (.duplicate existing.generation existing.recoveryReference))
  | none =>
    if svc.maxRetainedRequests ≤ svc.ledger.size then .error .requestCapacityExhausted
    else do
      let admission ← svc.prepare env nonce binding value
      return .inr admission

-- The durable half of execute: intent, snapshot, commit, ledger.
def publish : Method Unit := do
  appendFrame admission.intent
  atomicWrite .snapshot admission.snapshotBytes
  onService fun svc => { svc with snapshot := admission.candidate }
  appendFrame admission.commit
  atomicWrite .ledger admission.ledgerBytes
  onService fun svc => { svc with ledger := admission.candidateLedger }

def settle : Method MutationOutcome := do
  onService fun svc => { svc with unresolved := true }
  let res ← attempt (publish admission)
  match res with
  | .error _ => fail (.outcomeUnknown admission.marker.recoveryReference)
  | .ok _ => do
    onService fun svc => { svc with
      reconciliation := svc.reconciliation.insert admission.marker.recoveryReference
        (.committed admission.marker.generation)
      unresolved := false }
    return .committed admission.marker.generation admission.marker.recoveryReference

def execute (binding : Binding) (value : Option Bytes) : Method MutationOutcome := do
  let m ← Action.read
  if m.service.unresolved then fail .recoveryRequired
  else do
    let examined ← lift (m.service.examine env m.nonce binding value)
    drawNonces 4
    match examined with
    | .inl outcome => return outcome
    | .inr admission => settle admission

def PutRequest.binding (req : PutRequest) : Binding :=
  ⟨⟨req.principal, req.nspace, req.requestId⟩, req.resource, .put, req.authorizationDigest, digest32 env valueDomain req.value.bytes⟩

def DeleteRequest.binding (req : DeleteRequest) : Binding :=
  ⟨⟨req.principal, req.nspace, req.requestId⟩, req.resource, .delete, req.authorizationDigest, digest32 env deleteDomain (str "delete")⟩

def put (req : PutRequest) : Method MutationOutcome := do
  lift req.validate
  execute env (req.binding env) (some req.value.bytes)

def delete (req : DeleteRequest) : Method MutationOutcome := do
  lift req.validate
  execute env (req.binding env) none

def Service.reconcile (svc : Service) (ref : Str) : ReconciliationStatus :=
  (svc.reconciliation[ref]?).getD .unknown

structure CompactionOutcome where
  generation : Nat
  retainedRequests : Nat
  journalBytesBefore : Nat
  journalBytesAfter : Nat

def compact : Method CompactionOutcome := do
  let m ← Action.read
  if m.service.unresolved then fail .recoveryRequired
  else do
    lift (validateCommittedState m.service.snapshot m.service.snapshot.generation m.service.ledger)
    let point ← lift (checkpointMarker env m.service.snapshot m.service.ledger)
    let frame ← lift (sealedJournalRecord env m.nonce 1 (.checkpoint point))
    drawNonces 1
    let journal := journalMagic ++ frame
    if m.service.journalLimit < journal.length then fail .journalCapacityExhausted
    else do
      onService fun svc => { svc with unresolved := true }
      atomicWrite .journal journal
      onService fun svc => { svc with
        journalSequence := 1
        journalBytes := journal.length
        unresolved := false }
      return ⟨m.service.snapshot.generation, m.service.ledger.size, m.service.journalBytes, journal.length⟩

end HeptaBao.Durable
