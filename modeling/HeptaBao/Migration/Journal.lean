import HeptaBao.Exec.Action
import HeptaBao.Exec.Runs
import HeptaBao.Migration.Transitions
import HeptaBao.Wire.Hex
import HeptaBao.Wire.Json

namespace HeptaBao.Migration

open Wire Std Durable Exec Action
open Domain (nextGeneration)

def envelopeSchema : Str := str "heptabao.migration-journal-envelope.v1"
def authenticatedSchema : Str := str "heptabao.migration-journal-authenticated-envelope.v2"
def signingDomain : Bytes := str "heptabao.migration-journal.authenticated-envelope.v2" ++ [0]
def maxJournalBytes : Nat := 32 * 1024 * 1024

structure JournalEnvelope where
  schema : Str
  payloadSha256 : Str
  payload : JournalRecord

structure AuthenticatedPayload where
  schema : Str
  keyId : Str
  payloadSha256 : Str
  payload : JournalRecord

structure AuthenticatedEnvelope where
  unsigned : AuthenticatedPayload
  hmacSha256 : Str

-- sha2, ring::hmac and what serde_json makes of the stored types.
structure JournalEnv where
  sha256 : Bytes → Digest
  hmac : Bytes → Bytes → Digest
  objects : List MigrationObject → Bytes
  record : JournalRecord → Bytes
  unsigned : AuthenticatedPayload → Bytes
  envelope : Serde JournalEnvelope
  authenticated : Serde AuthenticatedEnvelope

structure JournalEnv.Lawful (env : JournalEnv) : Prop where
  envelope : env.envelope.RoundTrips
  authenticated : env.authenticated.RoundTrips
  filled : ∀ value, env.envelope.toVec value ≠ []
  filledToo : ∀ value, env.authenticated.toVec value ≠ []

inductive JournalAuthentication where
  | legacyChecksum
  | authenticated (keyId : Str) (key : Bytes)

-- Only regular files are ever put into the directory here.
structure DurableMigrationJournal where
  inventory : MigrationInventory
  record : JournalRecord
  recoveredFromPrevious : Bool
  authentication : JournalAuthentication

section

variable (env : JournalEnv)

def MigrationInventory.validate (inv : MigrationInventory) : Checked Unit := do
  require (inv.objects ≠ [] ∧ inv.objects.length ≤ maxObjects) .invalidObjectCount
  require (ascending (inv.objects.map MigrationObject.objectId) = true) .duplicateObject
  each MigrationObject.validate inv.objects
  require (inv.objects.all (fun object => object.dependencies.all fun dependency =>
    (inv.objects.map MigrationObject.objectId).contains dependency) = true) .unknownDependency
  let _ ← executionOrder inv.objects
  require (hexBytes (env.sha256 (env.objects inv.objects)).bytes = inv.sha256) .integrityMismatch

def JournalEnvelope.new (payload : JournalRecord) : JournalEnvelope :=
  ⟨envelopeSchema, hexBytes (env.sha256 (env.record payload)).bytes, payload⟩

def JournalEnvelope.validate (envelope : JournalEnvelope) : Checked JournalRecord := do
  require (envelope.schema = envelopeSchema) .unsupportedSchema
  validateSha256 envelope.payloadSha256
  require (hexBytes (env.sha256 (env.record envelope.payload)).bytes = envelope.payloadSha256) .integrityMismatch
  envelope.payload.validate
  return envelope.payload

def signingMessage (payload : AuthenticatedPayload) : Bytes := signingDomain ++ env.unsigned payload

def decodeTag (value : Str) : Checked Bytes := do
  (validateSha256 value).mapError fun _ => .authenticationFailed
  return hexPairs value

namespace JournalAuthentication

def encode (record : JournalRecord) : JournalAuthentication → Bytes
  | legacyChecksum => env.envelope.toVec (.new env record)
  | authenticated keyId key =>
    let unsigned : AuthenticatedPayload := ⟨authenticatedSchema, keyId, hexBytes (env.sha256 (env.record record)).bytes, record⟩
    env.authenticated.toVec ⟨unsigned, hexBytes (env.hmac key (signingMessage env unsigned)).bytes⟩

def decode (bytes : Bytes) : JournalAuthentication → Checked JournalRecord
  | legacyChecksum =>
    match env.envelope.fromSlice bytes with
    | none => .error .json
    | some envelope => envelope.validate env
  | authenticated keyId key =>
    match env.authenticated.fromSlice bytes with
    | none => .error .authenticationFailed
    | some envelope => do
      require (envelope.unsigned.schema = authenticatedSchema ∧ envelope.unsigned.keyId = keyId) .authenticationFailed
      let tag ← decodeTag envelope.hmacSha256
      require ((env.hmac key (signingMessage env envelope.unsigned)).bytes = tag) .authenticationFailed
      validateSha256 envelope.unsigned.payloadSha256
      require (hexBytes (env.sha256 (env.record envelope.unsigned.payload)).bytes = envelope.unsigned.payloadSha256) .integrityMismatch
      envelope.unsigned.payload.validate
      return envelope.unsigned.payload

end JournalAuthentication

end

-- The two generations and the temporaries by the generation in their names.
structure Folder where
  current : Option Bytes
  previous : Option Bytes
  temporary : ExtTreeMap UInt64 Bytes

-- The states the directory may fall back to when power is lost, newest first.
structure Disk where
  folder : Folder
  older : List Folder

-- The end of a call: an error it returns, or the end of the process.
inductive Stop where
  | failed (error : MigrationJournalError)
  | crashed

-- What goes wrong at a step and how much of it happened (bytes, for a write).
inductive Fault where
  | fails (part : Nat)
  | dies (part : Nat)

abbrev DiskAction := Action Disk Stop

def checked {α : Type} (res : Checked α) : DiskAction α := lift (res.mapError .failed)

variable (change : Folder → Folder)

def Disk.move (disk : Disk) : Disk := ⟨change disk.folder, disk.folder :: disk.older⟩

variable (fault : Option Fault)

def fileStep (partly : Nat → Folder → Folder) (wholly : Folder → Folder) : DiskAction Unit := fun disk =>
  match fault with
  | none => (.ok (), disk.move wholly)
  | some (.fails part) => (.error (.failed (.io .other)), disk.move (partly part))
  | some (.dies part) => (.error .crashed, disk.move (partly part))

def orNothing (part : Nat) (folder : Folder) : Folder := if part = 0 then folder else change folder

def look : DiskAction Unit :=
  match fault with
  | none => pure ()
  | some (.fails _) => fail (.failed (.io .other))
  | some (.dies _) => fail .crashed

-- Path::exists: an error counts as absence.
def present (file : Folder → Option Bytes) : DiskAction Bool :=
  match fault with
  | none => query fun disk => .ok (file disk.folder).isSome
  | some (.fails _) => pure false
  | some (.dies _) => fail .crashed

def syncAll : DiskAction Unit := fun disk =>
  match fault with
  | none => (.ok (), { disk with older := [] })
  | some (.fails part) => (.error (.failed (.io .other)), if part = 0 then disk else { disk with older := [] })
  | some (.dies part) => (.error .crashed, if part = 0 then disk else { disk with older := [] })

def rename (source : Folder → Option Bytes) (change : Bytes → Folder → Folder) : DiskAction Unit := do
  let disk ← Action.read
  match source disk.folder with
  | none => do
    look fault
    fail (.failed (.io .notFound))
  | some bytes => fileStep fault (orNothing (change bytes)) (change bytes)

structure Faults where
  verify : Option Fault := none
  currentMetadata : Option Fault := none
  previousMetadata : Option Fault := none
  create : Option Fault := none
  write : Option Fault := none
  flush : Option Fault := none
  syncFile : Option Fault := none
  currentExists : Option Fault := none
  previousExists : Option Fault := none
  remove : Option Fault := none
  syncRemoved : Option Fault := none
  keep : Option Fault := none
  syncKept : Option Fault := none
  publish : Option Fault := none
  previousRemains : Option Fault := none
  currentRemains : Option Fault := none
  restore : Option Fault := none
  syncRestored : Option Fault := none
  syncPublished : Option Fault := none

variable (gen : UInt64)

def withTemporary (bytes : Bytes) (folder : Folder) : Folder :=
  { folder with temporary := folder.temporary.insert gen bytes }

def setAside (bytes : Bytes) (folder : Folder) : Folder := { folder with current := none, previous := some bytes }

def putBack (bytes : Bytes) (folder : Folder) : Folder := { folder with current := some bytes, previous := none }

def published (bytes : Bytes) (folder : Folder) : Folder :=
  { folder with current := some bytes, temporary := folder.temporary.erase gen }

-- let _ = ...: an error is dropped, a crash is not.
def ignoring (action : DiskAction Unit) : DiskAction Unit := do
  let res ← attempt action
  match res with
  | .error .crashed => fail .crashed
  | _ => return ()

section

variable (env : JournalEnv) (faults : Faults)

def secureCreateNew (gen : UInt64) : DiskAction Unit := do
  let disk ← Action.read
  if disk.folder.temporary.contains gen then do
    look faults.create
    fail (.failed (.io .alreadyExists))
  else fileStep faults.create (orNothing (withTemporary gen [])) (withTemporary gen [])

def writeNew (gen : UInt64) (bytes : Bytes) : DiskAction Unit := do
  checked (require (bytes ≠ [] ∧ bytes.length ≤ maxJournalBytes) .invalidJournal)
  secureCreateNew faults gen
  fileStep faults.write (fun part => withTemporary gen (bytes.take part)) (withTemporary gen bytes)
  look faults.flush
  look faults.syncFile

def removePrevious : DiskAction Unit := do
  let there ← present faults.previousExists Folder.previous
  if there then do
    fileStep faults.remove (orNothing fun folder => { folder with previous := none }) (fun folder => { folder with previous := none })
    syncAll faults.syncRemoved
  else return ()

def keepCurrent : DiskAction Unit := do
  let there ← present faults.currentExists Folder.current
  if there then do
    removePrevious faults
    rename faults.keep Folder.current setAside
    syncAll faults.syncKept
  else return ()

-- previous.exists() && !current.exists()
def mayRestore : DiskAction Bool := do
  let kept ← present faults.previousRemains Folder.previous
  if kept then do
    let there ← present faults.currentRemains Folder.current
    return !there
  else return false

def restorePrevious : DiskAction Unit := do
  let restoring ← mayRestore faults
  if restoring then do
    ignoring (rename faults.restore Folder.previous putBack)
    ignoring (syncAll faults.syncRestored)
  else return ()

def publishTemporary (gen : UInt64) : DiskAction Unit := do
  let res ← attempt (rename faults.publish (fun folder => folder.temporary[gen]?) (published gen))
  match res with
  | .ok _ => syncAll faults.syncPublished
  | .error .crashed => fail .crashed
  | .error (.failed error) => do
    restorePrevious faults
    fail (.failed error)

def persistReplace (record : JournalRecord) (auth : JournalAuthentication) : DiskAction Unit := do
  look faults.verify
  look faults.currentMetadata
  look faults.previousMetadata
  writeNew faults record.generation (auth.encode env record)
  keepCurrent faults
  publishTemporary faults record.generation

def DurableMigrationJournal.commit (journal : DurableMigrationJournal) (candidate : JournalRecord) :
    DiskAction DurableMigrationJournal :=
  match nextGeneration journal.record.generation with
  | none => fail (.failed .generationOverflow)
  | some gen => do
    checked { candidate with generation := gen }.validate
    checked (validateRecordAgainstInventory { candidate with generation := gen } journal.inventory)
    persistReplace env faults { candidate with generation := gen } journal.authentication
    return { journal with record := { candidate with generation := gen }, recoveredFromPrevious := false }

def DurableMigrationJournal.advance (journal : DurableMigrationJournal) (transition : Transition) : DiskAction DurableMigrationJournal := do
  let candidate ← checked (journal.record.candidate journal.inventory transition)
  journal.commit env faults candidate

end

variable (env : JournalEnv) (binding : MigrationBinding) (inv : MigrationInventory) (auth : JournalAuthentication)

def loadOptional : Option Bytes → Checked (Option JournalRecord)
  | none => .ok none
  | some bytes => do
    require (bytes ≠ [] ∧ bytes.length ≤ maxJournalBytes) .unsafeRoot
    let record ← auth.decode env bytes
    return some record

def selectGeneration : Option JournalRecord → Option JournalRecord → Checked (JournalRecord × Bool)
  | some current, some prev =>
    if prev.generation < current.generation then .ok (current, false)
    else if current.generation < prev.generation then .error .ambiguousGeneration
    else if current = prev then .ok (current, false)
    else .error .ambiguousGeneration
  | some current, none => .ok (current, false)
  | none, some prev => .ok (prev, true)
  | none, none => .error .journalMissing

def validateArguments : Checked Unit := do
  binding.validate
  inv.validate env
  require (binding.inventorySha256 = inv.sha256) .bindingMismatch

def openWithAuthentication (folder : Folder) : Checked DurableMigrationJournal := do
  validateArguments env binding inv
  let current ← loadOptional env auth folder.current
  let prev ← loadOptional env auth folder.previous
  let (record, recovered) ← selectGeneration current prev
  require (record.binding = binding) .bindingMismatch
  record.validate
  validateRecordAgainstInventory record inv
  return ⟨inv, record, recovered, auth⟩

def initialRecord : JournalRecord where
  schema := journalSchema
  migrationId := binding.migrationId
  sourceId := binding.sourceId
  targetId := binding.targetId
  profile := binding.profile
  inventorySha256 := binding.inventorySha256
  generation := 1
  phase := .planned
  sourceWriter := true
  targetWriter := false
  sourceFenceSha256 := none
  sourceFenceGeneration := none
  targetActivationSha256 := none
  targetActivationGeneration := none
  targetFenceSha256 := none
  targetFenceGeneration := none
  sourceReactivationSha256 := none
  sourceReactivationGeneration := none
  cutoverAnchorSha256 := none
  rollbackAnchorSha256 := none
  objects := ExtTreeMap.ofList (inv.objects.map fun object => (object.objectId, MigrationObjectState.pending none 0))
  usedOperationIds := ∅

-- A creation that returns wrote the file and synced the directory.
def createWithAuthentication : Checked (DurableMigrationJournal × Folder) := do
  validateArguments env binding inv
  (initialRecord binding inv).validate
  validateRecordAgainstInventory (initialRecord binding inv) inv
  require (auth.encode env (initialRecord binding inv) ≠ [] ∧ (auth.encode env (initialRecord binding inv)).length ≤ maxJournalBytes) .invalidJournal
  return (⟨inv, initialRecord binding inv, false, auth⟩, ⟨some (auth.encode env (initialRecord binding inv)), none, ∅⟩)

-- The directory and the process that has it open.
structure World where
  disk : Disk
  live : Option DurableMigrationJournal

inductive Event where
  | transition (transition : Transition) (faults : Faults)
  | stop
  | lose (back : Nat)
  | reopen

-- A stop leaves the directory; a loss of power takes it back to since the last sync.
def step (world : World) : Event → World
  | .transition transition faults =>
    match world.live with
    | none => world
    | some journal =>
      match journal.advance env faults transition world.disk with
      | (.ok next, reached) => ⟨reached, some next⟩
      | (.error .crashed, reached) => ⟨reached, none⟩
      | (.error (.failed _), reached) => ⟨reached, some journal⟩
  | .stop => { world with live := none }
  | .lose back => ⟨⟨((world.disk.folder :: world.disk.older)[back]?).getD world.disk.folder, []⟩, none⟩
  | .reopen =>
    match world.live with
    | some _ => world
    | none => { world with live := (openWithAuthentication env binding inv auth world.disk.folder).toOption }

end HeptaBao.Migration
