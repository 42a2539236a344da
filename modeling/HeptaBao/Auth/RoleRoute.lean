import HeptaBao.Auth.UserRoute

namespace HeptaBao.Auth

open Wire Std Durable Exec Action

variable (secret : SecretId)

namespace SecretId

def expired (now : Nat) : Bool := secret.expiresAt.any (· ≤ now)

def exhausted : Bool := secret.usesRemaining == some 0

def spend : SecretId := { secret with usesRemaining := secret.usesRemaining.map (· - 1) }

end SecretId

namespace Role

def withSecretIds (role : Role) (secretIds : Table SecretId) : Role := { role with secretIds := secretIds }

def withRoleId (role : Role) (roleId : Str) : Role := { role with roleId := roleId }

def staleIds (role : Role) (now : Nat) : Nat :=
  (role.secretIds.toList.filter fun entry => entry.2.exhausted || entry.2.expired now).length

def tidied (role : Role) (now : Nat) : Role :=
  role.withSecretIds (role.secretIds.filter fun _ secret => !(secret.exhausted || secret.expired now))

end Role

def newRole (roleId : Str) : Role where
  roleId := roleId
  policies := ExtTreeSet.ofList [str "default"]
  tokenTtl := defaultTtl
  tokenMaxTtl := maxTtl
  tokenNumUses := 0
  secretIdTtl := defaultTtl
  secretIdNumUses := 1
  secretIds := ∅

variable (state : AuthState) (scope : AuthScope) (name : Str)

namespace AuthState

def role : Option Role := (state.rolesAt scope).bind (·[name]?)

def insertRole (role : Role) : AuthState :=
  state.rolesAtMut scope (·.insert name role)

def removeRole : AuthState := state.rolesAtMut scope (·.erase name)

end AuthState

variable (roles : Option (Table Role))

def roleKeys : List Str := (roles.map (·.keys)).getD []

def roleInfo (role : Role) : Value := .object [
  (str "bind_secret_id", .bool true),
  (str "token_policies", .ofStrings role.policies.toList),
  (str "token_ttl", .ofNat role.tokenTtl),
  (str "token_max_ttl", .ofNat role.tokenMaxTtl),
  (str "token_num_uses", .ofNat role.tokenNumUses),
  (str "secret_id_ttl", .ofNat role.secretIdTtl),
  (str "secret_id_num_uses", .ofNat role.secretIdNumUses)]

variable (lib : Library) (draws : Draws)

def updatedRole (actor : Principal) (existing : Option Role) (body : Value) :
    Except AuthError Role := do
  let bound ← boolean body "bind_secret_id" true
  if bound = false then .error (bad "AppRole requires secret_id binding")
  else do
    rejectAliasPair body "policies" "token_policies"
    -- the default role is built, its identifier drawn, even when it is not used
    let roleId ← randomId lib draws 0 "role."
    let role := existing.getD (newRole roleId)
    let names ← policies body (aliased body "token_policies" "policies") role.policies true
    validateAssignment actor names
    let ttl ← duration body "token_ttl" role.tokenTtl
    let maximum ← duration body "token_max_ttl" role.tokenMaxTtl
    let normal ← normalizeTtl ttl maximum
    let uses ← number body "token_num_uses" role.tokenNumUses
    let secretIdTtl ← duration body "secret_id_ttl" role.secretIdTtl
    if maxTtl < secretIdTtl then .error (bad "secret_id TTL exceeds maximum")
    else do
      let secretIdNumUses ← number body "secret_id_num_uses" role.secretIdNumUses
      .ok { role with
        policies := names
        tokenTtl := normal.1
        tokenMaxTtl := normal.2
        tokenNumUses := uses
        secretIdTtl := secretIdTtl
        secretIdNumUses := secretIdNumUses }

def plainRoleRoute (actor : Principal) (scope : AuthScope) (power name : Str)
    (existing : Option Role) (body : Value) : AuthAction AuthResponse :=
  if power = str "read" then do
    let role ← lift (match existing with
      | some role => .ok role
      | none => .error (err 404 "role not found"))
    pure (response (roleInfo role) false)
  else if power = str "delete" then do
    Action.modify fun state => state.removeRole scope name
    pure (empty true)
  else do
    refuse (power ≠ str "update") (err 405 "method not allowed")
    lift (rejectUnknown body ["bind_secret_id", "policies", "token_policies", "token_ttl", "token_max_ttl",
      "token_num_uses", "secret_id_ttl", "secret_id_num_uses"])
    let role ← lift (updatedRole lib draws actor existing body)
    Action.modify fun state => state.insertRole scope name role
    pure (empty true)

def secretIdAccessors (role : Role) (now : Nat) : List Str :=
  (role.secretIds.values.filter fun secret => !secret.expired now && !secret.exhausted).map SecretId.accessor

def newSecretId (role : Role) (body : Value) (now : Nat) :
    Except AuthError (Str × SecretId × Nat × Nat) := do
  let ttl ← duration body "ttl" role.secretIdTtl
  let uses ← number body "num_uses" role.secretIdNumUses
  if maxTtl < ttl ∨ (0 < role.secretIdTtl ∧ (ttl = 0 ∨ role.secretIdTtl < ttl)) ∨
      (0 < role.secretIdNumUses ∧ (uses = 0 ∨ role.secretIdNumUses < uses)) then
    .error (bad "secret_id constraints exceed role limits")
  else do
    let raw ← randomId lib draws 0 "secret."
    let accessor ← randomId lib draws 1 "sa."
    let expiresAt ← if ttl = 0 then .ok none else (checkedExpiry now ttl).map some
    .ok (raw, ⟨accessor, expiresAt, unlimitedZero uses⟩, ttl, uses)

def secretIdTarget (role : Role) (body : Value) (byAccessor : Bool) : Except AuthError (Str × SecretId) := do
  rejectUnknown body (if byAccessor then ["secret_id_accessor"] else ["secret_id"])
  let id ← if byAccessor then do
      let wanted ← stringField body "secret_id_accessor"
      match role.secretIds.toList.find? (fun entry => entry.2.accessor == wanted) with
      | some entry => .ok entry.1
      | none => .error (err 404 "secret_id not found")
    else (stringField body "secret_id").map (hash lib)
  match role.secretIds[id]? with
  | some secret => .ok (id, secret)
  | none => .error (err 404 "secret_id not found")

def secretIdInfo : Value := .object [
  (str "secret_id_accessor", .string secret.accessor),
  (str "secret_id_num_uses", .ofNat (secret.usesRemaining.getD 0)),
  (str "expiration_time_unix", .ofOption secret.expiresAt)]

def duplicateRoleId (name value : Str) : Bool :=
  roles.any fun roles => roles.toList.any fun entry => entry.1 != name && entry.2.roleId == value

def roleOperation (scope : AuthScope) (op power name : Str) (role : Role)
    (body : Value) (now : Nat) : AuthAction AuthResponse :=
  if op = str "role-id" ∧ power = str "read" then
    pure (response (.object [(str "role_id", .string role.roleId)]) false)
  else if op = str "role-id" ∧ power = str "update" then do
    lift (rejectUnknown body ["role_id"])
    let value ← lift (stringField body "role_id")
    let duplicate ← query fun state => .ok (duplicateRoleId (state.rolesAt scope) name value)
    refuse (value = [] ∨ 256 < value.length ∨ duplicate = true) (bad "invalid or duplicate role_id")
    Action.modify fun state => state.insertRole scope name (role.withRoleId value)
    pure (empty true)
  else if op = str "secret-id" ∧ power = str "list" then
    pure (response (.object [(str "keys", .ofStrings (secretIdAccessors role now))]) false)
  else if op = str "secret-id" ∧ power = str "update" then do
    lift (rejectUnknown body ["ttl", "num_uses"])
    let made ← lift (newSecretId lib draws role body now)
    Action.modify fun state =>
      state.insertRole scope name (role.withSecretIds (role.secretIds.insert (hash lib made.1) made.2.1))
    pure (response (.object [
      (str "secret_id", .string made.1),
      (str "secret_id_accessor", .string made.2.1.accessor),
      (str "secret_id_ttl", .ofNat made.2.2.1),
      (str "secret_id_num_uses", .ofNat made.2.2.2)]) true)
  else if (op = str "secret-id/lookup" ∨ op = str "secret-id-accessor/lookup") ∧ power = str "update" then do
    let found ← lift (secretIdTarget lib role body (op == str "secret-id-accessor/lookup"))
    pure (response (secretIdInfo found.2) false)
  else if (op = str "secret-id/destroy" ∨ op = str "secret-id-accessor/destroy") ∧ power = str "update" then do
    let found ← lift (secretIdTarget lib role body (op == str "secret-id-accessor/destroy"))
    Action.modify fun state => state.insertRole scope name (role.withSecretIds (role.secretIds.erase found.1))
    pure (empty true)
  else fail (err 404 "unsupported AppRole operation")

def roleRoute (who : Option Principal) (scope : AuthScope) (method path : Str)
    (body : Value) (now : Nat) : AuthAction AuthResponse := do
  let rest ← lift (match stripPrefix (str "auth/" ++ scope.mount ++ str "/role") path with
    | some rest => .ok rest
    | none => .error (bad "invalid role route"))
  let suffix := trimStartMatches 47 rest
  let parts := (splitOnce 47 suffix).getD (suffix, [])
  let name := parts.1
  let op := parts.2
  let power ← lift (routeCapability method (suffix.isEmpty || op == str "secret-id" && method == str "LIST"))
  let actor ← query fun state => state.permission who scope.nspace path power now
  if name = [] ∧ power = str "list" then do
    let keys ← query fun state => .ok (roleKeys (state.rolesAt scope))
    pure (response (.object [(str "keys", .ofStrings keys)]) false)
  else do
    refuse (validName name = false) (bad "invalid role name")
    let existing ← query fun state => .ok (state.role scope name)
    if op = [] then plainRoleRoute lib draws actor scope power name existing body
    else do
      let role ← lift (match existing with
        | some role => .ok role
        | none => .error (err 404 "role not found"))
      roleOperation lib draws scope op power name role body now

def tidySecretIds (who : Option Principal) (scope : AuthScope) (method path : Str) (body : Value) (now : Nat) :
    AuthAction AuthResponse := do
  refuse (method ∉ [str "POST", str "PUT"]) (err 405 "method not allowed")
  lift (rejectUnknown body [])
  let actor ← query fun state => state.permission who scope.nspace path (str "update") now
  query fun state => state.authorizeRequest actor scope.nspace path (str "sudo") now
  let removed ← query fun state =>
    .ok (((state.rolesAt scope).map fun roles => (roles.values.map (·.staleIds now)).sum).getD 0)
  Action.modify fun state => state.rolesAtMut scope (·.map fun _ role => role.tidied now)
  pure (response (.object [(str "removed_secret_ids", .ofNat removed)]) (decide (0 < removed)))

def findRole (roleId : Str) : Option (Str × Role) :=
  roles.bind fun roles => roles.toList.find? fun entry => entry.2.roleId == roleId

def spentRole (role : Role) (secretId : Str) (now : Nat) : Except AuthError Role :=
  match role.secretIds[hash lib secretId]? with
  | none => .error denied
  | some secret =>
    if secret.expired now = true ∨ secret.exhausted = true then .error denied
    else .ok (role.withSecretIds (role.secretIds.insert (hash lib secretId) secret.spend))

def loginApprole (scope : AuthScope) (method : Str) (body : Value) (now : Nat) :
    AuthAction AuthResponse := do
  refuse (method ∉ [str "POST", str "PUT"]) (err 405 "method not allowed")
  lift (rejectUnknown body ["role_id", "secret_id"])
  let roleId ← lift (stringField body "role_id")
  let secretId ← lift (stringField body "secret_id")
  refuse (256 < roleId.length ∨ 256 < secretId.length) denied
  let found ← query fun state => match findRole (state.rolesAt scope) roleId with
    | some found => .ok found
    | none => .error denied
  let role ← lift (spentRole lib found.2 secretId now)
  let token ← lift (loginToken lib draws scope role.policies role.tokenTtl role.tokenMaxTtl role.tokenNumUses
    (str "approle-" ++ found.1) now)
  let issued ← issue lib draws token now
  Action.modify fun state => state.insertRole scope found.1 role
  pure issued

end HeptaBao.Auth
