import HeptaBao.Wire.Hex
import HeptaBao.Wire.SortedMap
import HeptaBao.Durable.Validate

namespace HeptaBao.Durable

open Wire Std

abbrev Cursor := Reader ServiceError

def snapshotPlaintextMagic : Bytes := str "HBP2"
def ledgerPlaintextMagic : Bytes := str "HBC2"

def readExact (length : Nat) : Cursor Bytes := Reader.exact .corruptState length

def readU8 : Cursor Nat := do
  let bytes ← readExact 1
  return fromLittle bytes

def readU16 : Cursor Nat := do
  let bytes ← readExact 2
  return fromLittle bytes

def readU32 : Cursor Nat := do
  let bytes ← readExact 4
  return fromLittle bytes

def readU64 : Cursor Nat := do
  let bytes ← readExact 8
  return fromLittle bytes

def digestOf (bytes : Bytes) : Except ServiceError Digest :=
  if size : bytes.length = 32 then .ok ⟨bytes, size⟩ else .error .corruptState

def readArray32 : Cursor Digest := do
  let bytes ← readExact 32
  Reader.lift (digestOf bytes)

def check (condition : Bool) : Except ServiceError Unit := if condition then .ok () else .error .corruptState

def readBytes (maximum : Nat) : Cursor Bytes := do
  let length ← readU32
  Reader.lift (check (length ≤ maximum))
  readExact length

def readString (maximum : Nat) : Cursor Str := do
  let bytes ← readBytes maximum
  Reader.lift (check (utf8Valid bytes))
  return bytes

def writeBytes (value : Bytes) : Except ServiceError Bytes :=
  if value.length < 2 ^ 32 then .ok (little 4 value.length ++ value) else .error .corruptState

def encodeStringChecked (value : Str) : Except ServiceError Bytes :=
  if maxStringBytes * 2 < value.length then .error .corruptState else writeBytes value

def encodeString (value : Str) : Bytes := little 4 (min value.length (2 ^ 32 - 1)) ++ value

def encodeRequestKey (key : RequestKey) : Except ServiceError Bytes := do
  let who ← encodeStringChecked key.principal
  let nspace ← encodeStringChecked key.nspace
  let requestId ← encodeStringChecked key.requestId
  return who ++ (nspace ++ requestId)

def decodeRequestKey : Cursor RequestKey := do
  let who ← readString 256
  let nspace ← readString 1024
  let requestId ← readString 256
  Reader.lift (validateKey ⟨who, nspace, requestId⟩)
  return ⟨who, nspace, requestId⟩

def encodeMarker (mark : CommitMarker) : Except ServiceError Bytes := do
  let key ← encodeRequestKey mark.key
  let ref ← encodeStringChecked mark.recoveryReference
  return key ++ (mark.bindingDigest.bytes ++ (ref ++ little 8 mark.generation))

def decodeMarker : Cursor CommitMarker := do
  let key ← decodeRequestKey
  let bindingDigest ← readArray32
  let recoveryReference ← readString 128
  let gen ← readU64
  Reader.lift (validateMarker ⟨key, bindingDigest, recoveryReference, gen⟩)
  return ⟨key, bindingDigest, recoveryReference, gen⟩

def encodeLastCommit : Option CommitMarker → Except ServiceError Bytes
  | some mark => do
    let encoded ← encodeMarker mark
    return 1 :: encoded
  | none => .ok [0]

def decodeLastCommit : Cursor (Option CommitMarker) := do
  let present ← readU8
  match present with
  | 0 => return none
  | 1 => do
    let mark ← decodeMarker
    return some mark
  | _ => Reader.fail .corruptState

def encodeCount (count : Nat) : Except ServiceError Bytes :=
  if count < 2 ^ 32 then .ok (little 4 count) else .error .corruptState

def encodeEntry (entry : StorageKey × Bytes) : Except ServiceError Bytes := do
  let nspace ← encodeStringChecked entry.1.nspace
  let resource ← encodeStringChecked entry.1.resource
  let value ← writeBytes entry.2
  return nspace ++ (resource ++ value)

def encodeSnapshot (snap : Snapshot) : Except ServiceError Bytes := do
  let lastCommit ← encodeLastCommit snap.lastCommit
  let count ← encodeCount snap.entries.size
  let entries ← Reader.writeEach encodeEntry snap.entries.toList
  return snapshotPlaintextMagic ++ (little 8 snap.generation ++ (lastCommit ++ (count ++ entries)))

def decodeEntry (entries : Entries) : Cursor Entries := do
  let nspace ← readString 1024
  let resource ← readString maxStringBytes
  Reader.lift (validateNamespace nspace)
  Reader.lift (validateResource resource)
  let value ← readBytes maxSecretBytes
  Reader.lift (check (value ≠ []))
  Reader.lift (check (entries.contains ⟨nspace, resource⟩ = false))
  return entries.insert ⟨nspace, resource⟩ value

def decodeSnapshot (bytes : Bytes) : Except ServiceError Snapshot :=
  if bytes.length < 4 ∨ bytes.take 4 ≠ snapshotPlaintextMagic then .error .corruptState
  else Reader.complete .corruptState (do
    let gen ← readU64
    let lastCommit ← decodeLastCommit
    let count ← readU32
    Reader.lift (check (count ≤ maxRecords))
    let entries ← Reader.repeatFold decodeEntry count ∅
    return ⟨gen, entries, lastCommit⟩) (bytes.drop 4)

def encodeRecord (entry : RequestKey × LedgerRecord) : Except ServiceError Bytes := do
  let key ← encodeRequestKey entry.1
  let ref ← encodeStringChecked entry.2.recoveryReference
  return key ++ (entry.2.bindingDigest.bytes ++ (ref ++ little 8 entry.2.generation))

def encodeLedger (ledger : Ledger) : Except ServiceError Bytes := do
  let count ← encodeCount ledger.size
  let records ← Reader.writeEach encodeRecord ledger.toList
  return ledgerPlaintextMagic ++ (count ++ records)

def decodeRecord (ledger : Ledger) : Cursor Ledger := do
  let key ← decodeRequestKey
  let bindingDigest ← readArray32
  let recoveryReference ← readString 128
  let gen ← readU64
  Reader.lift (check (ledger.contains key = false))
  return ledger.insert key ⟨bindingDigest, recoveryReference, gen⟩

def decodeLedger (bytes : Bytes) : Except ServiceError Ledger :=
  if bytes.length < 4 ∨ bytes.take 4 ≠ ledgerPlaintextMagic then .error .corruptState
  else Reader.complete .corruptState (do
    let count ← readU32
    Reader.lift (check (count ≤ maxRecords))
    Reader.repeatFold decodeRecord count ∅) (bytes.drop 4)

def encodeJournalEvent : JournalEvent → Except ServiceError Bytes
  | .intent mark => do
    let encoded ← encodeMarker mark
    return 1 :: encoded
  | .commit mark => do
    let encoded ← encodeMarker mark
    return 2 :: encoded
  | .abort mark => do
    let encoded ← encodeMarker mark
    return 3 :: encoded
  | .checkpoint point => do
    let lastCommit ← encodeLastCommit point.lastCommit
    return 4 :: (little 8 point.generation ++ (little 8 point.retainedRequests ++ (lastCommit ++ point.ledgerDigest.bytes)))

def decodeCheckpoint : Cursor CheckpointMarker := do
  let gen ← readU64
  let retainedRequests ← readU64
  let lastCommit ← decodeLastCommit
  let ledgerDigest ← readArray32
  return ⟨gen, retainedRequests, lastCommit, ledgerDigest⟩

def decodeJournalEvent (bytes : Bytes) : Except ServiceError JournalEvent :=
  Reader.complete .corruptState (do
    let kind ← readU8
    match kind with
    | 1 => do
      let mark ← decodeMarker
      return .intent mark
    | 2 => do
      let mark ← decodeMarker
      return .commit mark
    | 3 => do
      let mark ← decodeMarker
      return .abort mark
    | 4 => do
      let point ← decodeCheckpoint
      return .checkpoint point
    | _ => Reader.fail .corruptState) bytes

-- What SHA-256 is fed: both lengths, so that domain and payload cannot shift.
def digestInput (domain bytes : Bytes) : Bytes :=
  little 8 domain.length ++ (domain ++ (little 8 bytes.length ++ bytes))

variable (env : Env)

def digest32 (domain bytes : Bytes) : Digest := env.sha256 (digestInput domain bytes)

def MutationKind.code : MutationKind → UInt8
  | .put => 1
  | .delete => 2

def Binding.encoded (binding : Binding) : Bytes :=
  encodeString binding.key.principal ++ (encodeString binding.key.nspace ++
    (encodeString binding.key.requestId ++ (encodeString binding.resource ++ ([binding.kind.code] ++
      (binding.authorizationDigest.bytes ++ binding.valueDigest.bytes)))))

def bindingDomain : Bytes := str "heptabao.durable-service.binding.v1"
def valueDomain : Bytes := str "heptabao.durable-service.value.v1"
def deleteDomain : Bytes := str "heptabao.durable-service.delete.v1"
def recoveryDomain : Bytes := str "heptabao.durable-service.recovery.v2"

def Binding.digest (binding : Binding) : Digest := digest32 env bindingDomain binding.encoded

variable (bindingDigest : Digest) (gen intentSequence : Nat)

def recoveryInput : Bytes :=
  bindingDigest.bytes ++ (little 8 gen ++ little 8 intentSequence)

def recoveryReference : Str :=
  hexBytes ((digest32 env recoveryDomain (recoveryInput bindingDigest gen intentSequence)).bytes.take 16)

end HeptaBao.Durable
