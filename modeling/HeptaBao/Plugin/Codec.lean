import HeptaBao.Plugin.Host

namespace HeptaBao.Plugin

open Wire Std Durable Domain Exec

def leaseMagic : Bytes := str "HBDL"
def intentMagic : Bytes := str "HBDI"
def durableSchemaVersion : Nat := 1
def maxEncodedRecordBytes : Nat := 16 * 1024

structure DurablePluginIntent where
  leaseId : Id
  operation : PluginOperation
  generation : UInt64
  ownerEntity : Id
  scope : CanonicalPath
  issuedAt : Tick
  proposedExpiresAt : Tick
  renewable : Bool
  previous : Option DynamicLeaseView
  requestDigest : Digest
deriving DecidableEq

def writeText (value : Str) : Except PluginHostError Bytes :=
  if value.length < 2 ^ 16 then .ok (big 2 value.length ++ value) else .error .corruptDurablePluginState

def leaseStateTag : DynamicLeaseState → UInt8
  | .active => 1
  | .revoked => 2
  | .expired => 3
  | .reconciliationRequired => 4

def boolByte (value : Bool) : UInt8 := if value then 1 else 0

def boundedRecord (output : Bytes) : Except PluginHostError Bytes :=
  if maxEncodedRecordBytes < output.length then .error .corruptDurablePluginState else .ok output

def encodeLease (view : DynamicLeaseView) : Except PluginHostError Bytes := do
  let leaseId ← writeText view.leaseId.text
  let ownerEntity ← writeText view.ownerEntity.text
  let scope ← writeText view.scope.text
  boundedRecord (leaseMagic ++ (big 2 durableSchemaVersion ++ (leaseId ++ (ownerEntity ++ (scope ++ ([leaseStateTag view.state] ++
    (big 8 view.issuedAt.toNat ++ (big 8 view.expiresAt.toNat ++ ([boolByte view.renewable] ++ (big 8 view.generation.toNat ++
      view.secretDigest.bytes))))))))))

def encodePrevious : Option DynamicLeaseView → Except PluginHostError Bytes
  | none => .ok (big 4 0)
  | some view => do
    let encoded ← encodeLease view
    if encoded.length < 2 ^ 32 then return big 4 encoded.length ++ encoded else .error .corruptDurablePluginState

variable (intent : DurablePluginIntent)

def encodeIntent : Except PluginHostError Bytes := do
  let leaseId ← writeText intent.leaseId.text
  let ownerEntity ← writeText intent.ownerEntity.text
  let scope ← writeText intent.scope.text
  let prev ← encodePrevious intent.previous
  boundedRecord (intentMagic ++ (big 2 durableSchemaVersion ++ (leaseId ++ ([intent.operation.tag] ++
    (big 8 intent.generation.toNat ++ (ownerEntity ++ (scope ++ (big 8 intent.issuedAt.toNat ++
      (big 8 intent.proposedExpiresAt.toNat ++ ([boolByte intent.renewable] ++ (intent.requestDigest.bytes ++ prev)))))))))))

abbrev DurableCursor := Reader PluginHostError

def corrupt {α : Type} : Except PluginHostError α := .error .corruptDurablePluginState

def check (condition : Bool) : Except PluginHostError Unit := if condition then .ok () else corrupt

def take (length : Nat) : DurableCursor Bytes := Reader.exact .corruptDurablePluginState length

def readNumber (width : Nat) : DurableCursor Nat := do
  let bytes ← take width
  return fromBig bytes

def readU64 : DurableCursor UInt64 := do
  let value ← readNumber 8
  return UInt64.ofNat value

def readArray32 : DurableCursor Digest := do
  let bytes ← take 32
  Reader.lift (if size : bytes.length = 32 then .ok ⟨bytes, size⟩ else corrupt)

def readText (maximum : Nat) : DurableCursor Str := do
  let length ← readNumber 2
  Reader.lift (check (length ≠ 0 && length ≤ maximum))
  let value ← take length
  Reader.lift (check (utf8Valid value))
  return value

def readId : DurableCursor Id := do
  let value ← readText 64
  Reader.lift (inDomain (Id.parse value))

def readPath : DurableCursor CanonicalPath := do
  let value ← readText 1024
  Reader.lift (inDomain (CanonicalPath.parse value))

def decodeLeaseState (value : Nat) : Except PluginHostError DynamicLeaseState :=
  match value with
  | 1 => .ok .active
  | 2 => .ok .revoked
  | 3 => .ok .expired
  | 4 => .ok .reconciliationRequired
  | _ => corrupt

def decodeBool (value : Nat) : Except PluginHostError Bool :=
  match value with
  | 0 => .ok false
  | 1 => .ok true
  | _ => corrupt

def decodeOperation (value : Nat) : Except PluginHostError PluginOperation :=
  match value with
  | 1 => .ok .read
  | 2 => .ok .write
  | 3 => .ok .issue
  | 4 => .ok .renew
  | 5 => .ok .revoke
  | _ => corrupt

def readHeader (magic : Bytes) : DurableCursor Unit := do
  let found ← take 4
  Reader.lift (check (found = magic))
  let version ← readNumber 2
  Reader.lift (check (version = durableSchemaVersion))

def leaseFields : DurableCursor DynamicLeaseView := do
  readHeader leaseMagic
  let leaseId ← readId
  let ownerEntity ← readId
  let scope ← readPath
  let stateTag ← readNumber 1
  let state ← Reader.lift (decodeLeaseState stateTag)
  let issuedAt ← readU64
  let expiresAt ← readU64
  let renewableTag ← readNumber 1
  let renewable ← Reader.lift (decodeBool renewableTag)
  let gen ← readU64
  let secretDigest ← readArray32
  return ⟨leaseId, ownerEntity, scope, state, issuedAt, expiresAt, renewable, gen, secretDigest⟩

def validateLeaseView (view : DynamicLeaseView) : Except PluginHostError Unit :=
  if view.generation = 0 ∨ view.secretDigest = zeroDigest ∨ view.expiresAt ≤ view.issuedAt then corrupt else .ok ()

def decodeLease (bytes : Bytes) : Except PluginHostError DynamicLeaseView := do
  let view ← Reader.complete .corruptDurablePluginState leaseFields bytes
  validateLeaseView view
  return view

def readPrevious : DurableCursor (Option DynamicLeaseView) := do
  let length ← readNumber 4
  if length = 0 then return none
  else do
    let bytes ← take length
    let view ← Reader.lift (decodeLease bytes)
    return some view

def intentFields : DurableCursor DurablePluginIntent := do
  readHeader intentMagic
  let leaseId ← readId
  let tag ← readNumber 1
  let op ← Reader.lift (decodeOperation tag)
  Reader.lift (check (op ≠ .read && op ≠ .write))
  let gen ← readU64
  let ownerEntity ← readId
  let scope ← readPath
  let issuedAt ← readU64
  let proposedExpiresAt ← readU64
  let renewableTag ← readNumber 1
  let renewable ← Reader.lift (decodeBool renewableTag)
  let requestDigest ← readArray32
  let prev ← readPrevious
  return ⟨leaseId, op, gen, ownerEntity, scope, issuedAt, proposedExpiresAt, renewable, prev, requestDigest⟩

def continuesPrevious (view : DynamicLeaseView) : Bool :=
  view.leaseId = intent.leaseId && view.ownerEntity = intent.ownerEntity && view.scope = intent.scope &&
    view.issuedAt = intent.issuedAt && view.renewable = intent.renewable && nextGeneration view.generation = some intent.generation

def validateIntent : Except PluginHostError Unit :=
  if intent.generation = 0 ∨ intent.requestDigest = zeroDigest ∨ intent.proposedExpiresAt ≤ intent.issuedAt ∨
      ¬(intent.operation = .issue ↔ intent.previous = none) then corrupt
  else match intent.previous with
    | none => .ok ()
    | some view => check (continuesPrevious intent view)

def decodeIntent (bytes : Bytes) : Except PluginHostError DurablePluginIntent := do
  let intent ← Reader.complete .corruptDurablePluginState intentFields bytes
  validateIntent intent
  return intent

end HeptaBao.Plugin
