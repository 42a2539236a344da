import HeptaBao.Migration.Record

namespace HeptaBao.Migration

open Wire Std Durable
open Domain (nextGeneration)

-- Intent returned only after the journal has durably entered the operation.
structure CopyIntent where
  objectId : Str
  operationId : Str
  attempt : UInt32
  sourceSha256 : Str
  expectedTargetSha256 : Str

inductive Transition where
  | fenceSource (receipt : WriterFenceReceipt)
  | beginObject (oid opId : Str)
  | markOutcomeUnknown (oid opId : Str)
  | confirmCommitted (oid opId targetSha256 : Str)
  | confirmNotCommitted (oid opId : Str)
  | failObject (oid reasonCode : Str)
  | verifyCopy
  | activateTarget (receipt : WriterFenceReceipt) (anchorSha256 : Str)
  | fenceTarget (receipt : WriterFenceReceipt)
  | rollback (receipt : WriterFenceReceipt) (anchorSha256 : Str)

def MigrationInventory.find (inv : MigrationInventory) (oid : Str) : Checked MigrationObject :=
  match inv.objects.find? fun object => object.objectId = oid with
  | none => .error .unknownObject
  | some object => .ok object

variable (inv : MigrationInventory) (state : Option MigrationObjectState) (opId : Str)

namespace JournalRecord

def withObject (record : JournalRecord) (oid : Str) (state : MigrationObjectState) : JournalRecord :=
  { record with objects := record.objects.insert oid state }

def fenceSource (record : JournalRecord) (receipt : WriterFenceReceipt) : Checked JournalRecord := do
  receipt.validate
  require (record.phase = .planned ∧ receipt.endpointId = record.sourceId ∧ receipt.writerEnabled = false) .invalidTransition
  return { record with
    sourceWriter := false
    sourceFenceSha256 := some receipt.sha256
    sourceFenceGeneration := some receipt.generation
    phase := .sourceFenced }

def previousAttempt (record : JournalRecord) (oid : Str) : Checked UInt32 :=
  match record.objects[oid]? with
  | some (.pending _ attempts) => .ok attempts
  | some (.failedClosed _ _) => .error .failedClosed
  | some _ => .error .reconciliationRequired
  | none => .error .unknownObject

def beginObject (record : JournalRecord) (oid opId : Str) :
    Checked (JournalRecord × CopyIntent) := do
  require ((record.phase = .sourceFenced ∨ record.phase = .copying) ∧ record.sourceWriter = false ∧ record.targetWriter = false)
    .invalidTransition
  validateId opId
  let object ← inv.find oid
  require (record.usedOperationIds.contains opId = false) .duplicateOperation
  each (fun dependency => require (record.objects[dependency]?.any MigrationObjectState.isVerified = true) .dependencyNotVerified)
    object.dependencies
  let attempts ← record.previousAttempt oid
  require (attempts.toNat + 1 < 2 ^ 32) .generationOverflow
  return ({ record.withObject oid (.intentPersisted opId (attempts + 1)) with
      phase := .copying
      usedOperationIds := record.usedOperationIds.insert opId },
    ⟨object.objectId, opId, attempts + 1, object.sourceSha256, object.expectedTargetSha256⟩)

def intentAttempt : Checked UInt32 :=
  match state with
  | some (.intentPersisted observed attempt) => if observed = opId then .ok attempt else .error .invalidTransition
  | some (.outcomeUnknownAfterEntry _ _) => .error .reconciliationRequired
  | _ => .error .invalidTransition

def markOutcomeUnknown (record : JournalRecord) (oid opId : Str) : Checked JournalRecord := do
  require (record.phase = .copying) .invalidTransition
  let attempt ← intentAttempt record.objects[oid]? opId
  return record.withObject oid (.outcomeUnknownAfterEntry opId attempt)

def activeAttempt : Checked UInt32 :=
  match state with
  | some (.intentPersisted observed attempt) => if observed = opId then .ok attempt else .error .invalidTransition
  | some (.outcomeUnknownAfterEntry observed attempt) =>
    if observed = opId then .ok attempt else .error .reconciliationRequired
  | _ => .error .invalidTransition

def confirmCommitted (record : JournalRecord) (oid opId targetSha256 : Str) :
    Checked JournalRecord := do
  require (record.phase = .copying) .invalidTransition
  validateSha256 targetSha256
  let object ← inv.find oid
  require (object.expectedTargetSha256 = targetSha256) .targetDigestMismatch
  let attempt ← activeAttempt record.objects[oid]? opId
  return record.withObject oid (.verified opId attempt targetSha256)

def unknownAttempt : Checked UInt32 :=
  match state with
  | some (.outcomeUnknownAfterEntry observed attempt) => if observed = opId then .ok attempt else .error .invalidTransition
  | _ => .error .invalidTransition

def confirmNotCommitted (record : JournalRecord) (oid opId : Str) : Checked JournalRecord := do
  require (record.phase = .copying) .invalidTransition
  let attempt ← unknownAttempt record.objects[oid]? opId
  return record.withObject oid (.pending (some opId) attempt)

def failedOperation : Checked (Option Str) :=
  match state with
  | some (.intentPersisted opId _) | some (.outcomeUnknownAfterEntry opId _) => .ok (some opId)
  | some (.pending _ _) => .ok none
  | some (.verified _ _ _) => .error .invalidTransition
  | some (.failedClosed _ _) => .error .failedClosed
  | none => .error .unknownObject

def failObject (record : JournalRecord) (oid reasonCode : Str) : Checked JournalRecord := do
  validateReasonCode reasonCode
  require (record.phase = .sourceFenced ∨ record.phase = .copying ∨ record.phase = .cutoverReady) .invalidTransition
  let opId ← failedOperation record.objects[oid]?
  return { record.withObject oid (.failedClosed opId reasonCode) with
    phase := .failedClosed
    sourceWriter := false
    targetWriter := false }

def verifyCopy (record : JournalRecord) : Checked JournalRecord := do
  require (record.phase = .copying ∧ record.sourceWriter = false ∧ record.targetWriter = false ∧
    record.states.all MigrationObjectState.isVerified = true) .invalidTransition
  return { record with phase := .cutoverReady }

def activateTarget (record : JournalRecord) (receipt : WriterFenceReceipt) (anchorSha256 : Str) : Checked JournalRecord := do
  receipt.validate
  validateSha256 anchorSha256
  require (record.phase = .cutoverReady ∧ record.sourceWriter = false ∧ record.targetWriter = false ∧
    receipt.endpointId = record.targetId ∧ receipt.writerEnabled = true) .invalidTransition
  return { record with
    targetWriter := true
    targetActivationSha256 := some receipt.sha256
    targetActivationGeneration := some receipt.generation
    cutoverAnchorSha256 := some anchorSha256
    phase := .targetActive }

def fenceTarget (record : JournalRecord) (receipt : WriterFenceReceipt) : Checked JournalRecord := do
  receipt.validate
  require (record.phase = .targetActive ∧ receipt.endpointId = record.targetId ∧ receipt.writerEnabled = false ∧
    record.targetActivationGeneration.any (· < receipt.generation) = true) .invalidTransition
  return { record with
    targetWriter := false
    targetFenceSha256 := some receipt.sha256
    targetFenceGeneration := some receipt.generation
    phase := .targetFenced }

def rollback (record : JournalRecord) (receipt : WriterFenceReceipt) (anchorSha256 : Str) : Checked JournalRecord := do
  receipt.validate
  validateSha256 anchorSha256
  require ((record.phase = .sourceFenced ∨ record.phase = .copying ∨ record.phase = .cutoverReady ∨ record.phase = .targetFenced) ∧
    record.targetWriter = false ∧ receipt.endpointId = record.sourceId ∧ receipt.writerEnabled = true ∧
      record.sourceFenceGeneration.any (· < receipt.generation) = true) .invalidTransition
  require (record.states.all (fun state => !state.isUnresolved) = true) .reconciliationRequired
  return { record with
    sourceWriter := true
    sourceReactivationSha256 := some receipt.sha256
    sourceReactivationGeneration := some receipt.generation
    rollbackAnchorSha256 := some anchorSha256
    phase := .rolledBack }

def candidate (record : JournalRecord) : Transition → Checked JournalRecord
  | .fenceSource receipt => record.fenceSource receipt
  | .beginObject oid opId => (beginObject inv record oid opId).map Prod.fst
  | .markOutcomeUnknown oid opId => record.markOutcomeUnknown oid opId
  | .confirmCommitted oid opId targetSha256 => confirmCommitted inv record oid opId targetSha256
  | .confirmNotCommitted oid opId => record.confirmNotCommitted oid opId
  | .failObject oid reasonCode => record.failObject oid reasonCode
  | .verifyCopy => record.verifyCopy
  | .activateTarget receipt anchorSha256 => record.activateTarget receipt anchorSha256
  | .fenceTarget receipt => record.fenceTarget receipt
  | .rollback receipt anchorSha256 => record.rollback receipt anchorSha256

end JournalRecord

end HeptaBao.Migration
