import HeptaBao.Engines.Types

namespace HeptaBao.Engines

open Wire Wire.Json Std Durable

def maxRetainedVersions : Nat := 10000

structure Config where
  maxVersions : Nat := 0
  casRequired : Bool := false
  deleteVersionAfter : Nat := 0

def deleteAfter (old : Nat) : Option Value → Except EngineError Nat
  | none => .ok old
  | some after => durationSeconds after

def Config.update (config : Config) (body : Value) : Except EngineError Config := do
  let max ← optionalU64 body "max_versions"
  refuse (maxRetainedVersions < max.getD 0) (bad "max_versions exceeds the supported retention bound")
  let casRequired ← optionalBool body "cas_required"
  let after ← deleteAfter config.deleteVersionAfter (body.get (str "delete_version_after"))
  return ⟨max.getD config.maxVersions, casRequired.getD config.casRequired, after⟩

def Config.members (config : Config) : List (Str × Value) :=
  [(str "cas_required", .bool config.casRequired), (str "delete_version_after", .string (decimal config.deleteVersionAfter ++ str "s")),
    (str "max_versions", .ofNat config.maxVersions)]

structure Version where
  createdAt : Nat
  deletionAt : Option Nat
  destroyed : Bool
  data : Option Value

abbrev Metadata := ExtTreeMap Str Str

structure Entry where
  config : Config := {}
  currentVersion : Nat := 0
  oldestVersion : Nat := 0
  createdAt : Nat
  updatedAt : Nat
  customMetadata : Option Metadata := none
  versions : ExtTreeMap Nat Version := ∅

def Entry.new (now : Nat) : Entry := { createdAt := now, updatedAt := now }

structure Kv2 where
  config : Config := {}
  entries : ExtTreeMap Str Entry := ∅

def metadataValue : Option Metadata → Value
  | none => .null
  | some metadata => .object (metadata.toList.map fun (name, text) => (name, .string text))

def Version.times (version : Version) : List (Str × Value) :=
  [(str "created_time", .string (timestamp version.createdAt)), (str "deletion_time", .string ((version.deletionAt.map timestamp).getD [])),
    (str "destroyed", .bool version.destroyed)]

def Version.metadata (version : Version) (number : Nat) (custom : Option Metadata) : Value :=
  .object ((str "custom_metadata", metadataValue custom) :: version.times ++ [(str "version", .ofNat number)])

def Version.readable (version : Version) (now : Nat) : Bool :=
  !version.destroyed && version.data.isSome && version.deletionAt.all (now < ·)

def Entry.metadata (entry : Entry) : Value :=
  .object (entry.config.members ++ [(str "created_time", .string (timestamp entry.createdAt)), (str "current_version", .ofNat entry.currentVersion),
    (str "custom_metadata", metadataValue entry.customMetadata), (str "oldest_version", .ofNat entry.oldestVersion),
    (str "updated_time", .string (timestamp entry.updatedAt)),
    (str "versions", .object (entry.versions.toList.map fun (number, version) => (decimal number, .object version.times)))])

def listing (keys : List Str) (method resource : Str) (body : Value) : Except EngineError (List Str) := do
  if resource ≠ [] then validPath (trimEndMatches 47 resource)
  let keys ← listKeys keys resource (method == str "SCAN") body
  refuse (keys = []) notFound
  return keys

mutual

def mergePatch (target : Value) : Value → Value
  | .object patch => .object (mergeMembers ((target.asObject).getD []) patch)
  | other => other

def mergeMembers (members : List (Str × Value)) : List (Str × Value) → List (Str × Value)
  | [] => members
  | (name, .null) :: patch => mergeMembers (members.filter (·.1 != name)) patch
  | (name, value) :: patch =>
    let old := ((members.find? (·.1 == name)).map (·.2)).getD .null
    mergeMembers (setMember name (mergePatch old value) members) patch

end

mutual

def stripValues (depth level : Nat) : Value → Value
  | .object (member :: members) =>
    if depth = 0 ∨ level < depth then .object (stripMembers depth (level + 1) (member :: members)) else .null
  | _ => .null

def stripMembers (depth level : Nat) : List (Str × Value) → List (Str × Value)
  | [] => []
  | (name, value) :: members => (name, stripValues depth level value) :: stripMembers depth level members

end

variable (engine : Kv2) (patch : Bool) (op : Str)

namespace Kv2

def contains (path : Str) : Bool := engine.entries[path]?.any (0 < ·.currentVersion)

def selected (entry : Entry) (body : Value) : Except EngineError Nat := do
  let asked ← optionalU64 body "version"
  return (asked.filter (· ≠ 0)).getD entry.currentVersion

variable (resource : Str)

def read (body : Value) (now : Nat) (subkeys : Bool) : Except EngineError EngineResponse := do
  let entry ← orFail notFound engine.entries[resource]?
  let number ← selected entry body
  let version ← orFail notFound entry.versions[number]?
  let metadata := version.metadata number entry.customMetadata
  if version.readable now = false then
    return ⟨404, .object [(str "data", .object [(str "data", .null), (str "metadata", metadata)])], false⟩
  let data ← orFail notFound version.data
  if subkeys then
    let depth ← optionalU64 body "depth"
    return ok (.object [(str "metadata", metadata), (str "subkeys", stripValues (depth.getD 0) 0 data)]) false
  return ok (.object [(str "data", data), (str "metadata", metadata)]) false

def casOf (body : Value) : Except EngineError (Option Nat) :=
  match body.get (str "options") with
  | none => .ok none
  | some options => do
    rejectUnknown options ["cas"]
    optionalU64 options "cas"

def patched (current : Option Entry) (now : Nat) (newData : Value) : Except EngineError Value := do
  let version := current.bind fun entry => entry.versions[entry.currentVersion]?
  let old ← orFail notFound ((version.filter (·.readable now)).bind Version.data)
  return mergePatch old newData

def newValue (current : Option Entry) (now : Nat) (newData : Value) : Except EngineError Value :=
  if patch then patched current now newData else .ok newData

def deadline (key engine now : Nat) : Except EngineError (Option Nat) := do
  let after := if key = 0 then engine else if engine = 0 then key else min key engine
  if after = 0 then return none
  refuse (u64Max < now + after) (bad "deletion deadline overflow")
  return some (now + after)

def retention (key engine : Nat) : Nat := if key = 0 then if engine = 0 then 10 else engine else key

def versionFloor (next retained : Nat) : Nat := next - retained + 1

def appended (entry : Entry) (next retained now : Nat) (version : Version) : Entry :=
  let floor := versionFloor next retained
  { entry with
    currentVersion := next
    updatedAt := now
    versions := (entry.versions.insert next version).filter fun number _ => decide (floor ≤ number)
    oldestVersion := if 1 < floor then floor else 0 }

def write (body : Value) (now : Nat) (patch : Bool) : Except EngineError (Answer Kv2) := do
  rejectUnknown body ["data", "options"]
  let newData ← orFail (bad "data must be a JSON object") ((body.get (str "data")).filter (·.asObject.isSome))
  let cas ← casOf body
  let current := engine.entries[resource]?
  let currentVersion := (current.map Entry.currentVersion).getD 0
  refuse ((engine.config.casRequired = true ∨ current.any (·.config.casRequired) = true) ∧ cas = none)
    (bad "check-and-set parameter is required for this key")
  refuse (cas.any (· ≠ currentVersion) = true ∨ (patch = true ∧ cas = some 0)) (bad "check-and-set parameter did not match the current version")
  let data ← newValue patch current now newData
  refuse (u64Max < currentVersion + 1) (bad "version limit reached")
  let entry := current.getD (.new now)
  let deletionAt ← deadline entry.config.deleteVersionAfter engine.config.deleteVersionAfter now
  let version : Version := ⟨now, deletionAt, false, some data⟩
  let retained := retention entry.config.maxVersions engine.config.maxVersions
  return (ok (version.metadata (currentVersion + 1) entry.customMetadata) true,
    { engine with entries := engine.entries.insert resource (appended entry (currentVersion + 1) retained now version) })

def positive (value : Value) : Except EngineError Nat :=
  orFail (bad "version numbers must be positive integers") (value.asU64.filter (0 < ·))

variable (now : Nat)

def changeVersion (version : Version) : Option Version :=
  if version.destroyed then none
  else if op = str "destroy" then some { version with data := none, destroyed := true }
  else if op = str "delete" ∧ version.deletionAt.all (now < ·) = true then some { version with deletionAt := some now }
  else if op = str "undelete" ∧ version.deletionAt.isSome = true then some { version with deletionAt := none }
  else none

def changeEach (state : Bool × ExtTreeMap Nat Version) (number : Nat) : Bool × ExtTreeMap Nat Version :=
  match state.2[number]?.bind (changeVersion op now) with
  | none => state
  | some version => (true, state.2.insert number version)

def changeVersions (op : Str) (body : Value) (now : Nat) : Except EngineError (Answer Kv2) := do
  rejectUnknown body ["versions"]
  let versions ← orFail (bad "versions must be a nonempty integer array") (((body.get (str "versions")).bind Value.asArray).filter (!·.isEmpty))
  let numbers ← versions.mapM positive
  match engine.entries[resource]? with
  | none => return (empty false, engine)
  | some entry =>
    let (changed, versions) := numbers.foldl (changeEach op now) (false, entry.versions)
    return (empty changed, { engine with entries := engine.entries.insert resource { entry with versions := versions } })

def customStep (next : Metadata) (member : Str × Value) : Except EngineError Metadata := do
  refuse (member.1 = [] ∨ 128 < member.1.length) (bad "custom metadata key exceeds supported limits")
  match patch, member.2 with
  | true, .null => return next.erase member.1
  | _, value =>
    let text ← orFail (bad "custom_metadata values must be strings") value.asStr
    refuse (512 < text.length) (bad "custom metadata value exceeds supported limits")
    return next.insert member.1 text

def customMetadata (old : Option Metadata) : Option Value → Except EngineError (Option Metadata)
  | none => .ok old
  | some .null => .ok none
  | some metadata => do
    let members ← orFail (bad "custom_metadata must be a string map") metadata.asObject
    let next ← members.foldlM (customStep patch) (if patch then old.getD ∅ else ∅)
    refuse (64 < next.size) (bad "too many custom metadata entries")
    return some next

def writeMetadata (body : Value) (now : Nat) (patch : Bool) : Except EngineError (Answer Kv2) := do
  rejectUnknown body ["max_versions", "cas_required", "delete_version_after", "custom_metadata"]
  refuse (patch = true ∧ engine.entries.contains resource = false) notFound
  let entry := engine.entries[resource]?.getD (.new now)
  let config ← entry.config.update body
  let custom ← customMetadata patch entry.customMetadata (body.get (str "custom_metadata"))
  return (empty true, { engine with entries := engine.entries.insert resource { entry with config := config, customMetadata := custom } })

def deleteCurrent : EngineResponse × Kv2 :=
  match engine.entries[resource]? with
  | none => (empty false, engine)
  | some entry =>
    match entry.versions[entry.currentVersion]?.bind (changeVersion (str "delete") now) with
    | none => (empty false, engine)
    | some version =>
      let next := { entry with versions := entry.versions.insert entry.currentVersion version }
      (empty true, { engine with entries := engine.entries.insert resource next })

variable (method : Str)

def handleConfig (body : Value) : Except EngineError (Answer Kv2) := do
  if method = str "GET" then return (ok (.object engine.config.members) false, engine)
  refuse (writeMethod method = false) unsupported
  rejectUnknown body ["max_versions", "cas_required", "delete_version_after"]
  return (empty true, { engine with config := ← engine.config.update body })

def detailed (keys : List Str) : Value :=
  .object (keys.filterMap fun key => engine.entries[folder resource ++ key]?.map fun entry => (key, entry.metadata))

def handleResource (resource : Str) (body : Value) (now : Nat) : Except EngineError (Answer Kv2) :=
  if among op ["data", "subkeys"] ∧ method = str "GET" then
    do return (← engine.read resource body now (op == str "subkeys"), engine)
  else if op = str "data" ∧ (writeMethod method = true ∨ method = str "PATCH") then
    engine.write resource body now (method == str "PATCH")
  else if op = str "data" ∧ method = str "DELETE" then .ok (engine.deleteCurrent resource now)
  else if among op ["delete", "undelete", "destroy"] ∧ writeMethod method = true then
    engine.changeVersions resource op body now
  else if op = str "metadata" ∧ method = str "GET" then
    do return (ok (← orFail notFound engine.entries[resource]?).metadata false, engine)
  else if op = str "metadata" ∧ method = str "DELETE" then
    .ok (empty (engine.entries.contains resource), { engine with entries := engine.entries.erase resource })
  else if op = str "metadata" ∧ (writeMethod method = true ∨ method = str "PATCH") then
    engine.writeMetadata resource body now (method == str "PATCH")
  else .error unsupported

def target (path : Str) : Str × Str := (splitOnce 47 path).getD (path, [])

def handle (path : Str) (body : Value) (now : Nat) : Except EngineError (Answer Kv2) := do
  if path = str "config" then engine.handleConfig method body
  else
    let (op, resource) := target path
    if among op ["metadata", "detailed-metadata"] ∧ among method ["LIST", "SCAN"] then
      let keys ← listing engine.entries.keys method resource body
      let info := if op = str "detailed-metadata" then [(str "key_info", engine.detailed resource keys)] else []
      return (ok (.object (info ++ [(str "keys", .ofStrings keys)])) false, engine)
    else
      refuse (among op ["data", "subkeys", "metadata", "delete", "undelete", "destroy"] = false) (err 404 "unknown KV v2 operation")
      validPath resource
      engine.handleResource op method resource body now

end Kv2

end HeptaBao.Engines
