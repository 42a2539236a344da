import HeptaBao.Durable.Recover

namespace HeptaBao.Durable

open Wire Std Exec Action

def backupMagic : Bytes := str "HBB2"
def backupVersion : Nat := 1
def backupDomain : Bytes := str "heptabao.durable-service.backup.v1"

variable (env : Env) (gen : Nat)

def encodeBackup (snap journal ledger : Bytes) : Except ServiceError Bytes :=
  if maxFileBytes < snap.length ∨ maxFileBytes < journal.length ∨ maxFileBytes < ledger.length then .error .corruptState
  else do
    let snapshotPart ← writeBytes snap
    let journalPart ← writeBytes journal
    let ledgerPart ← writeBytes ledger
    let encoded := backupMagic ++ (little 2 backupVersion ++ (little 2 0 ++ (little 8 gen ++
      (snapshotPart ++ (journalPart ++ ledgerPart)))))
    if maxBackupBytes < encoded.length + 32 then .error .corruptState
    else .ok (encoded ++ (digest32 env backupDomain encoded).bytes)

structure BackupComponents where
  snapshotBytes : Bytes
  journalBytes : Bytes
  ledgerBytes : Bytes
  snapshot : Snapshot
  ledger : Ledger
  journalSequence : Nat

def readBackup : Cursor (Nat × Bytes × Bytes × Bytes) := do
  let magic ← readExact 4
  Reader.lift (check (magic = backupMagic))
  let version ← readU16
  Reader.lift (check (version = backupVersion))
  let reserved ← readU16
  Reader.lift (check (reserved = 0))
  let gen ← readU64
  let snap ← readBytes maxFileBytes
  let journal ← readBytes maxFileBytes
  let ledger ← readBytes maxFileBytes
  return (gen, snap, journal, ledger)

-- The bundle must be exactly one checkpoint over one complete ledger.
def checkBackup (maxRetainedRequests : Nat) (snap : Snapshot) (journal : Journal) (journalLength : Nat)
    (ledgerGeneration : Nat) (ledger : Ledger) : Except ServiceError Unit :=
  if journal.incompleteTail ∨ journal.verifiedBytes ≠ journalLength ∨ journal.expectedSequence - 1 ≠ 1 ∨
      journal.events.length ≠ 1 ∨ gen ≠ snap.generation ∨ gen ≠ ledgerGeneration ∨ maxRetainedRequests < ledger.size then .error .corruptState
  else do
    validateCommittedState snap ledgerGeneration ledger
    match journal.events with
    | .checkpoint point :: _ => do
      validateCheckpoint env point ledger
      if point.generation ≠ gen then .error .corruptState else .ok ()
    | _ => .error .corruptState

def decodeBackup (encoded : Bytes) (maxRetainedRequests : Nat) : Except ServiceError BackupComponents :=
  if encoded.length < 4 + 2 + 2 + 8 + 4 * 3 + 32 ∨ maxBackupBytes < encoded.length then .error .corruptState
  else if (digest32 env backupDomain (encoded.take (encoded.length - 32))).bytes ≠ encoded.drop (encoded.length - 32) then
    .error .corruptState
  else do
    let parts ← Reader.complete .corruptState readBackup (encoded.take (encoded.length - 32))
    let snap ← decodeSnapshotFrame env parts.2.1
    let ledger ← decodeLedgerFrame env parts.2.2.2
    let journal ← decodeJournalFrames env parts.2.2.1
    checkBackup env parts.1 maxRetainedRequests snap journal parts.2.2.1.length ledger.1 ledger.2
    return ⟨parts.2.1, parts.2.2.1, parts.2.2.2, snap, ledger.2, journal.expectedSequence - 1⟩

def exportBackup : Method Bytes := do
  let m ← Action.read
  if m.service.unresolved then fail .recoveryRequired
  else do
    lift (validateCommittedState m.service.snapshot m.service.snapshot.generation m.service.ledger)
    let snap ← lift (sealedSnapshot env m.nonce m.service.snapshot)
    let ledger ← lift (sealedLedger env (m.nonce + 1) m.service.snapshot.generation m.service.ledger)
    let mark ← lift (checkpointMarker env m.service.snapshot m.service.ledger)
    let point ← lift (sealedJournalRecord env (m.nonce + 2) 1 (.checkpoint mark))
    drawNonces 3
    lift (encodeBackup env m.service.snapshot.generation snap (journalMagic ++ point) ledger)

structure RestoreOutcome where
  previousGeneration : Nat
  restoredGeneration : Nat
  retainedRequests : Nat

def rebuildReconciliation : List (RequestKey × LedgerRecord) → ExtTreeMap Str ReconciliationStatus →
    Except ServiceError (ExtTreeMap Str ReconciliationStatus)
  | [], built => .ok built
  | (_, record) :: rest, built => do
    validateLedgerRecord record
    rebuildReconciliation rest (built.insert record.recoveryReference (.committed record.generation))

def restoreBackup (backup : Bytes) (allowRollback : Bool) : Method RestoreOutcome := do
  let m ← Action.read
  if m.service.unresolved then fail .recoveryRequired
  else do
    let restored ← lift (decodeBackup env backup m.service.maxRetainedRequests)
    if restored.snapshot.generation < m.service.snapshot.generation ∧ allowRollback = false then
      fail .backupRollbackRejected
    else do
      onService fun svc => { svc with unresolved := true }
      atomicWrite .snapshot restored.snapshotBytes
      atomicWrite .ledger restored.ledgerBytes
      atomicWrite .journal restored.journalBytes
      onService fun svc => { svc with
        snapshot := restored.snapshot
        ledger := restored.ledger
        journalSequence := restored.journalSequence
        journalBytes := restored.journalBytes.length
        reconciliation := ∅ }
      let reconciliation ← lift (rebuildReconciliation restored.ledger.toList ∅)
      onService fun svc => { svc with
        reconciliation := reconciliation
        unresolved := false }
      return ⟨m.service.snapshot.generation, restored.snapshot.generation, restored.ledger.size⟩

end HeptaBao.Durable
