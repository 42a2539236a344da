import HeptaBao.Durable.Service

namespace HeptaBao.Durable

open Wire Std Exec Action

def emptySnapshot : Snapshot := ⟨0, ∅, none⟩

def bounded (bytes : Bytes) : Except ServiceError Bytes :=
  if maxFileBytes < bytes.length then .error .corruptState else .ok bytes

variable (env : Env) (maxRetainedRequests : Nat)

def createNew (nonce : Nat) : Except ServiceError (Disk × Service) := do
  validateCapacity maxRetainedRequests
  let snap ← sealedSnapshot env nonce emptySnapshot >>= bounded
  let ledger ← sealedLedger env (nonce + 1) 0 ∅ >>= bounded
  return (⟨snap, journalMagic, ledger⟩, ⟨emptySnapshot, ∅, ∅, 0, journalMagic.length, maxFileBytes, maxRetainedRequests, false⟩)

structure Replay where
  pending : Option CommitMarker
  committed : Markers
  lastCommit : Option CommitMarker
  committedGeneration : Nat
  references : ExtTreeSet Str
  sawCheckpoint : Bool
  reconciliation : ExtTreeMap Str ReconciliationStatus

def retainRecords : List (RequestKey × LedgerRecord) → Markers → ExtTreeSet Str →
    Except ServiceError (Markers × ExtTreeSet Str)
  | [], committed, references => .ok (committed, references)
  | (key, record) :: rest, committed, references => do
    let mark ← markerFromLedger key record
    if mark.recoveryReference ∈ references then .error .corruptState
    else
      retainRecords rest (committed.insert key mark) (references.insert mark.recoveryReference)

def replayCheckpoint (ledger : Ledger) (offset : Nat) (replay : Replay) (point : CheckpointMarker) :
    Except ServiceError Replay :=
  if offset ≠ 0 ∨ replay.sawCheckpoint ∨ replay.pending.isSome ∨ replay.committed.isEmpty = false then
    .error .corruptState
  else do
    let retained ← ledgerPrefix ledger point.generation
    validateCheckpoint env point retained
    let collected ← retainRecords retained.toList replay.committed replay.references
    return { replay with
      sawCheckpoint := true
      committedGeneration := point.generation
      lastCommit := point.lastCommit
      committed := collected.1
      references := collected.2 }

def replayIntent (offset : Nat) (replay : Replay) (mark : CommitMarker) : Except ServiceError Replay := do
  validateMarker mark
  match checkedAdd offset 1 with
  | none => .error .generationOverflow
  | some seq =>
    if replay.pending.isSome ∨ mark.key ∈ replay.committed then .error .corruptState
    else match checkedAdd replay.committedGeneration 1 with
      | none => .error .generationOverflow
      | some next =>
        if mark.generation ≠ next ∨ mark.recoveryReference ≠ recoveryReference env mark.bindingDigest mark.generation seq ∨
            mark.recoveryReference ∈ replay.references then .error .corruptState
        else .ok { replay with
          pending := some mark
          references := replay.references.insert mark.recoveryReference }

def replayEvent (ledger : Ledger) (offset : Nat) (replay : Replay) : JournalEvent → Except ServiceError Replay
  | .checkpoint point => replayCheckpoint env ledger offset replay point
  | .intent mark => replayIntent env offset replay mark
  | .commit mark =>
    if replay.pending ≠ some mark then .error .corruptState
    else .ok { replay with
      pending := none
      committedGeneration := mark.generation
      lastCommit := some mark
      committed := replay.committed.insert mark.key mark }
  | .abort mark =>
    if replay.pending ≠ some mark then .error .corruptState
    else .ok { replay with
      pending := none
      reconciliation := replay.reconciliation.insert mark.recoveryReference .aborted }

def replayFrom (env : Env) (ledger : Ledger) : Nat → Replay → List JournalEvent → Except ServiceError Replay
  | _, replay, [] => .ok replay
  | offset, replay, event :: events => do
    let next ← replayEvent env ledger offset replay event
    replayFrom env ledger (offset + 1) next events

def Replay.start (reconciliation : ExtTreeMap Str ReconciliationStatus) : Replay :=
  ⟨none, ∅, none, 0, ∅, false, reconciliation⟩

def publishedPending (snap : Snapshot) (pending : Option CommitMarker) : Bool :=
  pending.any fun mark => snap.generation = mark.generation ∧ snap.lastCommit = some mark

def ledgerAgrees (ledger : Ledger) (ledgerGeneration : Nat) (entry : RequestKey × CommitMarker) : Bool :=
  if entry.2.generation ≤ ledgerGeneration then ledger[entry.1]? = some (recordOf entry.2)
  else ledger.contains entry.1 = false

-- The checks before the first repair; the answer: was the intent published.
def checkFrontier (svc : Service) (ledgerGeneration : Nat) (replay : Replay) : Except ServiceError Bool :=
  let published := publishedPending svc.snapshot replay.pending
  if replay.committed.size ≠ replay.committedGeneration then .error .corruptState
  else if published = false ∧ (svc.snapshot.generation ≠ replay.committedGeneration ∨
      svc.snapshot.lastCommit ≠ replay.lastCommit) then .error .corruptState
  else if svc.snapshot.generation = 0 ∧ (svc.snapshot.entries.isEmpty = false ∨ svc.snapshot.lastCommit.isSome) then .error .corruptState
  else if replay.committedGeneration < ledgerGeneration ∨
      min (ledgerGeneration + 1) (2 ^ 64 - 1) < replay.committedGeneration then .error .corruptState
  else if replay.committed.toList.all (ledgerAgrees svc.ledger ledgerGeneration) = false then .error .corruptState
  else if svc.ledger.toList.all (fun entry => replay.committed.contains entry.1) = false then .error .corruptState
  else if svc.maxRetainedRequests < replay.committed.size + (if published then 1 else 0) then
    .error .requestCapacityExhausted
  else .ok published

def repairTail (incompleteTail : Bool) : Method Unit := do
  let m ← Action.read
  if incompleteTail then setJournalLength m.service.journalBytes else pure ()

def settlePending (replay : Replay) (published : Bool) : Method Replay :=
  match replay.pending with
  | none => pure replay
  | some mark =>
    if published then do
      appendEvent env (.commit mark)
      return { replay with committed := replay.committed.insert mark.key mark }
    else do
      appendEvent env (.abort mark)
      return { replay with reconciliation := replay.reconciliation.insert mark.recoveryReference .aborted }

def reconcileCommitted (committed : Markers) (reconciliation : ExtTreeMap Str ReconciliationStatus) :
    ExtTreeMap Str ReconciliationStatus :=
  committed.toList.foldl (fun built entry => built.insert entry.2.recoveryReference (.committed entry.2.generation))
    reconciliation

def persistLedger : Method Unit := do
  let m ← Action.read
  let encoded ← lift (sealedLedger env m.nonce m.service.snapshot.generation m.service.ledger)
  drawNonces 1
  atomicWrite .ledger encoded

def recover (events : List JournalEvent) (ledgerGeneration : Nat) (incompleteTail : Bool) : Method Unit := do
  let m ← Action.read
  lift (validateLedgerGeneration m.service.ledger ledgerGeneration)
  let replay ← lift (replayFrom env m.service.ledger 0 (.start m.service.reconciliation) events)
  let published ← lift (checkFrontier m.service ledgerGeneration replay)
  repairTail incompleteTail
  let settled ← settlePending env replay published
  onService fun svc => { svc with
    reconciliation := reconcileCommitted settled.committed settled.reconciliation
    ledger := settled.committed.map fun _ mark => recordOf mark }
  persistLedger env
  onService fun svc => { svc with unresolved := false }

structure Loaded where
  service : Service
  events : List JournalEvent
  ledgerGeneration : Nat
  incompleteTail : Bool

def load (disk : Disk) : Except ServiceError Loaded := do
  validateCapacity maxRetainedRequests
  let snap ← bounded disk.snapshot >>= decodeSnapshotFrame env
  let journal ← bounded disk.journal >>= decodeJournalFrames env
  let ledger ← bounded disk.ledger >>= decodeLedgerFrame env
  return ⟨⟨snap, ledger.2, ∅, journal.expectedSequence - 1, journal.verifiedBytes, maxFileBytes, maxRetainedRequests,
    false⟩, journal.events, ledger.1, journal.incompleteTail⟩

-- A reopen that fails leaves no handle, but it may have changed the files.
def reopen (disk : Disk) (plan : Plan) (nonce : Nat) :
    Except ServiceError Service × Disk × Nat :=
  match load env maxRetainedRequests disk with
  | .error flaw => (.error flaw, disk, nonce)
  | .ok loaded =>
    match recover env loaded.events loaded.ledgerGeneration loaded.incompleteTail ⟨disk, plan, nonce, loaded.service⟩ with
    | (.error flaw, reached) => (.error flaw, reached.disk, reached.nonce)
    | (.ok _, reached) => (.ok reached.service, reached.disk, reached.nonce)

end HeptaBao.Durable
