import HeptaBao.Contracts.Domain

namespace HeptaBao.Migration

open Wire Std Durable
open Domain (checkId checkPath nextGeneration)

def journalSchema : Str := str "heptabao.migration-journal.v1"
def maxObjects : Nat := 4096
def maxDependencies : Nat := 128
def maxProfileBytes : Nat := 128

inductive FileError where
  | notFound
  | alreadyExists
  | other
deriving DecidableEq

inductive MigrationJournalError where
  | sameEndpoint
  | invalidIdentifier
  | invalidSourcePath
  | invalidDigest
  | invalidProfile
  | invalidReceipt
  | invalidReasonCode
  | invalidObjectCount
  | tooManyDependencies
  | duplicateObject
  | invalidDependency
  | unknownDependency
  | dependencyCycle
  | dependencyNotVerified
  | unknownObject
  | duplicateOperation
  | reconciliationRequired
  | targetDigestMismatch
  | invalidTransition
  | writerOverlap
  | failedClosed
  | bindingMismatch
  | unsupportedSchema
  | integrityMismatch
  | authenticationFailed
  | invalidJournal
  | journalMissing
  | ambiguousGeneration
  | generationOverflow
  | unsafeRoot
  | io (error : FileError)
  | json
deriving DecidableEq

abbrev Checked := Except MigrationJournalError

def require (condition : Prop) [Decidable condition] (flaw : MigrationJournalError) : Checked Unit :=
  if condition then .ok () else .error flaw

theorem require_ok {condition : Prop} [Decidable condition] {flaw : MigrationJournalError} : require condition flaw =
    .ok () ↔ condition := by
  unfold require
  split <;> simp_all

-- A for loop whose body may return an error.
def each {α : Type} (body : α → Checked Unit) : List α → Checked Unit
  | [] => .ok ()
  | item :: rest => do
    body item
    each body rest

theorem each_ok {α : Type} (body : α → Checked Unit) (items : List α) : each body items = .ok () ↔ ∀ item ∈ items,
    body item = .ok () := by
  induction items with
  | nil => simp [each]
  | cons _ _ ih =>
    rw [List.forall_mem_cons, ← ih]
    constructor
    · intro passes
      exact unit_bind_ok passes
    · rintro ⟨first, later⟩
      simp only [each, first]
      exact later

def validateId (value : Str) : Checked Unit := (checkId value).mapError fun _ => .invalidIdentifier

def digestByte (byte : UInt8) : Bool := (48 ≤ byte && byte ≤ 57) || (97 ≤ byte && byte ≤ 102)

def validateSha256 (value : Str) : Checked Unit := require (value.length = 64 ∧ value.all digestByte = true) .invalidDigest

def reasonByte (byte : UInt8) : Bool := (65 ≤ byte && byte ≤ 90) || (48 ≤ byte && byte ≤ 57) || byte == 95 || byte == 45

def validateReasonCode (value : Str) : Checked Unit :=
  require (value ≠ [] ∧ value.length ≤ 64 ∧ value.all reasonByte = true) .invalidReasonCode

inductive MigrationObjectClass where
  | policy
  | mount
  | authMethod
  | identity
  | token
  | lease
  | kvHistory
  | transit
  | pki
  | ssh
  | database
  | audit
  | pluginCatalog
  | systemMetadata
deriving DecidableEq

structure MigrationObject where
  objectId : Str
  objectClass : MigrationObjectClass
  sourcePath : Str
  sourceSha256 : Str
  expectedTargetSha256 : Str
  dependencies : List Str
deriving DecidableEq

-- windows(2).any(|pair| pair[0] >= pair[1]) is false.
def ascending : List Str → Bool
  | first :: second :: rest => compare first second == .lt && ascending (second :: rest)
  | _ => true

def MigrationObject.validate (object : MigrationObject) : Checked Unit := do
  validateId object.objectId
  (checkPath object.sourcePath).mapError fun _ => .invalidSourcePath
  validateSha256 object.sourceSha256
  validateSha256 object.expectedTargetSha256
  require (object.dependencies.length ≤ maxDependencies) .tooManyDependencies
  each (fun dependency => do
    validateId dependency
    require (dependency ≠ object.objectId) .invalidDependency) object.dependencies
  require (ascending object.dependencies = true) .invalidDependency

structure MigrationInventory where
  objects : List MigrationObject
  sha256 : Str
deriving DecidableEq

-- Dependencies left for each object, the objects without any, the order so far.
structure OrderState where
  indegree : ExtTreeMap Str Nat
  ready : ExtTreeSet Str
  ordered : List MigrationObject

def OrderState.release : List Str → OrderState → Checked OrderState
  | [], state => .ok state
  | child :: rest, state =>
    match state.indegree[child]? with
    | none => .error .unknownDependency
    | some 0 => .error .dependencyCycle
    | some (value + 1) => OrderState.release rest { state with
        indegree := state.indegree.insert child value
        ready := if value = 0 then state.ready.insert child else state.ready }

variable (objects : List MigrationObject)

def dependents (oid : Str) : List Str :=
  objects.flatMap fun object => (object.dependencies.filter (· = oid)).map fun _ => object.objectId

-- Every round takes one ready object, so there are no more rounds than that.
def OrderState.drain (objects : List MigrationObject) (byId : ExtTreeMap Str MigrationObject) : Nat → OrderState →
    Checked OrderState
  | 0, state => .ok state
  | rounds + 1, state =>
    match state.ready.toList.head? with
    | none => .ok state
    | some oid =>
      match byId[oid]? with
      | none => .error .unknownObject
      | some object => do
        let next ← OrderState.release (dependents objects oid)
          { state with ready := state.ready.erase oid, ordered := state.ordered ++ [object] }
        OrderState.drain objects byId rounds next

def byId : ExtTreeMap Str MigrationObject :=
  ExtTreeMap.ofList (objects.map fun object => (object.objectId, object))

def executionOrder : Checked (List MigrationObject) := do
  let indegree : ExtTreeMap Str Nat := ExtTreeMap.ofList (objects.map fun object => (object.objectId, object.dependencies.length))
  let ready := ExtTreeSet.ofList ((indegree.toList.filter fun entry => entry.2 = 0).map Prod.fst)
  let reached ← OrderState.drain objects (byId objects) (objects.length + (objects.map fun object => object.dependencies.length).sum)
    ⟨indegree, ready, []⟩
  require (reached.ordered.length = objects.length) .dependencyCycle
  return reached.ordered

structure MigrationBinding where
  migrationId : Str
  sourceId : Str
  targetId : Str
  profile : Str
  inventorySha256 : Str
deriving DecidableEq

def MigrationBinding.validate (binding : MigrationBinding) : Checked Unit := do
  validateId binding.migrationId
  validateId binding.sourceId
  validateId binding.targetId
  require (binding.sourceId ≠ binding.targetId) .sameEndpoint
  require (binding.profile ≠ [] ∧ binding.profile.length ≤ maxProfileBytes ∧ binding.profile.all identifierByte = true) .invalidProfile
  validateSha256 binding.inventorySha256

inductive MigrationObjectState where
  | pending (lastOperationId : Option Str) (attempts : UInt32)
  | intentPersisted (opId : Str) (attempt : UInt32)
  | outcomeUnknownAfterEntry (opId : Str) (attempt : UInt32)
  | verified (opId : Str) (attempt : UInt32) (targetSha256 : Str)
  | failedClosed (opId : Option Str) (reasonCode : Str)
deriving DecidableEq

namespace MigrationObjectState

def isVerified : MigrationObjectState → Bool
  | verified _ _ _ => true
  | _ => false

def isUnresolved : MigrationObjectState → Bool
  | intentPersisted _ _ => true
  | outcomeUnknownAfterEntry _ _ => true
  | _ => false

def isFailed : MigrationObjectState → Bool
  | failedClosed _ _ => true
  | _ => false

end MigrationObjectState

inductive DurableMigrationPhase where
  | planned
  | sourceFenced
  | copying
  | cutoverReady
  | targetActive
  | targetFenced
  | rolledBack
  | failedClosed
deriving DecidableEq

structure WriterFenceReceipt where
  endpointId : Str
  writerEnabled : Bool
  generation : UInt64
  sha256 : Str

def WriterFenceReceipt.validate (receipt : WriterFenceReceipt) : Checked Unit := do
  validateId receipt.endpointId
  require (receipt.generation ≠ 0) .invalidReceipt
  validateSha256 receipt.sha256

structure JournalRecord where
  schema : Str
  migrationId : Str
  sourceId : Str
  targetId : Str
  profile : Str
  inventorySha256 : Str
  generation : UInt64
  phase : DurableMigrationPhase
  sourceWriter : Bool
  targetWriter : Bool
  sourceFenceSha256 : Option Str
  sourceFenceGeneration : Option UInt64
  targetActivationSha256 : Option Str
  targetActivationGeneration : Option UInt64
  targetFenceSha256 : Option Str
  targetFenceGeneration : Option UInt64
  sourceReactivationSha256 : Option Str
  sourceReactivationGeneration : Option UInt64
  cutoverAnchorSha256 : Option Str
  rollbackAnchorSha256 : Option Str
  objects : ExtTreeMap Str MigrationObjectState
  usedOperationIds : ExtTreeSet Str
deriving DecidableEq

namespace JournalRecord

def binding (record : JournalRecord) : MigrationBinding :=
  ⟨record.migrationId, record.sourceId, record.targetId, record.profile, record.inventorySha256⟩

def writersOf : DurableMigrationPhase → Bool × Bool
  | .planned | .rolledBack => (true, false)
  | .targetActive => (false, true)
  | _ => (false, false)

-- is_some_and(|value| value > 0)
def positive (gen : Option UInt64) : Bool := gen.any (· ≠ 0)

def sourceFenced (record : JournalRecord) : Bool := record.sourceFenceSha256.isSome && positive record.sourceFenceGeneration

def targetActivated (record : JournalRecord) : Bool :=
  record.targetActivationSha256.isSome && positive record.targetActivationGeneration && record.cutoverAnchorSha256.isSome

def targetFenced (record : JournalRecord) : Bool := record.targetFenceSha256.isSome && positive record.targetFenceGeneration

def sourceReactivated (record : JournalRecord) : Bool :=
  record.sourceReactivationSha256.isSome && positive record.sourceReactivationGeneration && record.rollbackAnchorSha256.isSome

def digests (record : JournalRecord) : List Str :=
  [record.sourceFenceSha256, record.targetActivationSha256, record.targetFenceSha256, record.sourceReactivationSha256,
    record.cutoverAnchorSha256, record.rollbackAnchorSha256].reduceOption

-- An attempt under way: its id is known and its number is not zero.
def validateAttempt (used : ExtTreeSet Str) (opId : Str) (attempt : UInt32) : Checked Unit :=
  require (attempt ≠ 0 ∧ used.contains opId = true) .invalidJournal

def validateState (used : ExtTreeSet Str) : MigrationObjectState → Checked Unit
  | .pending none attempts => require (attempts = 0) .invalidJournal
  | .pending (some opId) attempts => do
    validateId opId
    validateAttempt used opId attempts
  | .intentPersisted opId attempt | .outcomeUnknownAfterEntry opId attempt => do
    validateId opId
    validateAttempt used opId attempt
  | .verified opId attempt targetSha256 => do
    validateId opId
    validateSha256 targetSha256
    validateAttempt used opId attempt
  | .failedClosed none reasonCode => validateReasonCode reasonCode
  | .failedClosed (some opId) reasonCode => do
    validateId opId
    validateReasonCode reasonCode

def validateEntry (used : ExtTreeSet Str) (entry : Str × MigrationObjectState) : Checked Unit := do
  validateId entry.1
  validateState used entry.2

def states (record : JournalRecord) : List MigrationObjectState := record.objects.toList.map Prod.snd

def phaseObjects (record : JournalRecord) : Bool :=
  match record.phase with
  | .planned => record.states.all (· = .pending none 0)
  | .cutoverReady | .targetActive | .targetFenced => record.states.all MigrationObjectState.isVerified
  | .rolledBack => record.states.all fun state => !state.isUnresolved
  | .failedClosed => record.states.any MigrationObjectState.isFailed
  | .sourceFenced | .copying => true

def validate (record : JournalRecord) : Checked Unit := do
  require (record.schema = journalSchema) .unsupportedSchema
  record.binding.validate
  require (record.generation ≠ 0 ∧ record.objects.size ≠ 0 ∧ record.objects.size ≤ maxObjects) .invalidJournal
  require (¬(record.sourceWriter = true ∧ record.targetWriter = true)) .writerOverlap
  require ((record.sourceWriter, record.targetWriter) = writersOf record.phase) .invalidJournal
  require (record.phase = .planned ∨ record.sourceFenced = true) .invalidJournal
  require (record.phase ≠ .targetActive ∨ record.targetActivated = true) .invalidJournal
  require (record.phase ≠ .targetFenced ∨ (record.targetActivated = true ∧ record.targetFenced = true)) .invalidJournal
  require (record.phase ≠ .rolledBack ∨ record.sourceReactivated = true) .invalidJournal
  each validateSha256 record.digests
  each (validateEntry record.usedOperationIds) record.objects.toList
  require (record.phaseObjects = true) .invalidJournal
  each validateId record.usedOperationIds.toList

structure Valid (record : JournalRecord) : Prop where
  schema : record.schema = journalSchema
  binding : record.binding.validate = .ok ()
  counts : record.generation ≠ 0 ∧ record.objects.size ≠ 0 ∧ record.objects.size ≤ maxObjects
  writers : (record.sourceWriter, record.targetWriter) = writersOf record.phase
  fenced : record.phase = .planned ∨ record.sourceFenced = true
  activated : record.phase ≠ .targetActive ∨ record.targetActivated = true
  stopped : record.phase ≠ .targetFenced ∨ (record.targetActivated = true ∧ record.targetFenced = true)
  reactivated : record.phase ≠ .rolledBack ∨ record.sourceReactivated = true
  digests : ∀ digest ∈ record.digests, validateSha256 digest = .ok ()
  entries : ∀ entry ∈ record.objects.toList, validateEntry record.usedOperationIds entry = .ok ()
  phase : record.phaseObjects = true
  used : ∀ opId ∈ record.usedOperationIds.toList, validateId opId = .ok ()

theorem validate_ok (record : JournalRecord) : record.validate = .ok () ↔ record.Valid := by
  constructor
  · intro passes
    unfold validate at passes
    obtain ⟨schema, passes⟩ := unit_bind_ok passes
    obtain ⟨binding, passes⟩ := unit_bind_ok passes
    obtain ⟨counts, passes⟩ := unit_bind_ok passes
    obtain ⟨_, passes⟩ := unit_bind_ok passes
    obtain ⟨writers, passes⟩ := unit_bind_ok passes
    obtain ⟨fenced, passes⟩ := unit_bind_ok passes
    obtain ⟨activated, passes⟩ := unit_bind_ok passes
    obtain ⟨stopped, passes⟩ := unit_bind_ok passes
    obtain ⟨reactivated, passes⟩ := unit_bind_ok passes
    obtain ⟨digests, passes⟩ := unit_bind_ok passes
    obtain ⟨entries, passes⟩ := unit_bind_ok passes
    obtain ⟨phase, used⟩ := unit_bind_ok passes
    exact ⟨(require_ok).mp schema, binding, (require_ok).mp counts, (require_ok).mp writers, (require_ok).mp fenced,
      (require_ok).mp activated, (require_ok).mp stopped, (require_ok).mp reactivated, (each_ok _ _).mp digests,
      (each_ok _ _).mp entries, (require_ok).mp phase, (each_ok _ _).mp used⟩
  · intro valid
    -- No phase has both writers on.
    have apart : ¬(record.sourceWriter = true ∧ record.targetWriter = true) := by
      rintro ⟨source, target⟩
      have writers := valid.writers
      rw [source, target] at writers
      cases phase : record.phase <;> simp [phase, writersOf] at writers
    unfold validate
    rw [(require_ok).mpr valid.schema, valid.binding, (require_ok).mpr valid.counts, (require_ok).mpr apart,
      (require_ok).mpr valid.writers, (require_ok).mpr valid.fenced, (require_ok).mpr valid.activated,
      (require_ok).mpr valid.stopped, (require_ok).mpr valid.reactivated, (each_ok _ _).mpr valid.digests,
      (each_ok _ _).mpr valid.entries, (require_ok).mpr valid.phase, (each_ok _ _).mpr valid.used]
    rfl

end JournalRecord

def validateAgainst (expected : ExtTreeMap Str MigrationObject) (entry : Str × MigrationObjectState) : Checked Unit :=
  match expected[entry.1]? with
  | none => .error .bindingMismatch
  | some object =>
    match entry.2 with
    | .verified _ _ targetSha256 => require (targetSha256 = object.expectedTargetSha256) .targetDigestMismatch
    | _ => .ok ()

def validateRecordAgainstInventory (record : JournalRecord) (inv : MigrationInventory) : Checked Unit := do
  require ((byId inv.objects).size = record.objects.size) .bindingMismatch
  each (validateAgainst (byId inv.objects)) record.objects.toList

end HeptaBao.Migration
