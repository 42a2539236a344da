import HeptaBao.Auth.Federated
import HeptaBao.Auth.UserRoute

namespace HeptaBao.Auth

open Wire Std Durable Exec Action

variable (mount : JwtMountState)

namespace JwtMountState

def withConfig (config : JwtConfig) : JwtMountState := { mount with config := some config }

def insertRole (name : Str) (role : JwtRole) : JwtMountState :=
  { mount with roles := mount.roles.insert name role }

def removeRole (name : Str) : JwtMountState := { mount with roles := mount.roles.erase name }

def insertIdentity (key : Str) (identity : ExternalIdentity) : JwtMountState :=
  { mount with identities := mount.identities.insert key identity }

-- Records that have expired are forgotten, and the clock is remembered.
def admitted (key : Str) (expiresAt now : Nat) : JwtMountState :=
  { mount with
    replay := (mount.replay.filter fun _ expiry => decide (now < expiry)).insert key expiresAt
    lastAdmissionTime := now }

end JwtMountState

namespace AuthState

def jwtConfig (state : AuthState) (scope : AuthScope) : Option JwtConfig := (state.jwtAt scope).bind JwtMountState.config

def jwtRole (state : AuthState) (scope : AuthScope) (name : Str) : Option JwtRole := (state.jwtAt scope).bind (·.roles[name]?)

end AuthState

variable (lib : Library)

def admitExternalReplay (scope : AuthScope) (fingerprint : Bytes) (expiresAt now : Nat) : AuthAction Unit := do
  Action.modify fun state => state.jwtAtMut scope id
  let mount ← query fun state => .ok ((state.jwtAt scope).getD .default)
  refuse (expiresAt ≤ now ∨ now < mount.lastAdmissionTime) denied
  refuse (mount.replay[lib.encodeBase64 fingerprint]?.any (now < ·) = true) denied
  refuse (maxExternalReplayEntries ≤ (mount.replay.values.filter (now < ·)).length)
    (err 503 "external replay registry capacity exhausted")
  Action.modify fun state => state.jwtAtMut scope (·.admitted (lib.encodeBase64 fingerprint) expiresAt now)

def roleRefuses (role : JwtRole) (nspace : Str) (verified : VerifiedPrincipal) : Bool :=
  verified.nspace.getD [] != nspace || !isSubset role.boundGroups verified.groups ||
    role.boundSubject.any (· != verified.subject) ||
    (decide (role.boundAudiences.size ≠ 0) && isDisjoint role.boundAudiences verified.audiences) ||
    role.policies.contains (str "root")

def externalIdentity (nspace : Str) (verified : VerifiedPrincipal) (now : Nat) : ExternalIdentity where
  issuer := verified.issuer
  subject := verified.subject
  nspace := nspace
  groups := verified.groups
  lastSeen := now

variable (draws : Draws)

def jwtToken (scope : AuthScope) (role : JwtRole) (verified : VerifiedPrincipal) (now : Nat) :
    Except AuthError Token := do
  let remaining := verified.expiresAt - now
  if remaining = 0 then .error denied
  else do
    let ttl := max (min role.tokenTtl remaining) 1
    let maximum := max (min role.tokenMaxTtl remaining) ttl
    let accessor ← randomId lib draws 0 "a."
    let expiresAt ← checkedExpiry now ttl
    let maxExpiresAt ← checkedExpiry now maximum
    .ok {
      accessor := accessor
      nspace := scope.nspace
      policies := role.policies
      root := false
      parent := none
      createdAt := now
      expiresAt := some expiresAt
      maxExpiresAt := some maxExpiresAt
      period := 0
      renewable := true
      usesRemaining := unlimitedZero role.tokenNumUses
      displayName := str "jwt-" ++ (hash lib verified.subject).take 16
      authMount := some scope.mount
      authOriginKnown := true }

def verifyJwt (config : JwtConfig) (jwt : Str) (now : Nat) : Except AuthError VerifiedPrincipal := do
  let verifier ← config.verifier
  match verifier.verify lib jwt now with
  | some verified => .ok verified
  | none => .error denied

def loginJwt (scope : AuthScope) (method : Str) (body : Value) (now : Nat) :
    AuthAction AuthResponse := do
  refuse (method ∉ [str "POST", str "PUT"]) (err 405 "method not allowed")
  lift (rejectUnknown body ["role", "jwt"])
  let roleName ← lift (stringField body "role")
  refuse (validName roleName = false) (bad "invalid JWT role name")
  let jwt ← lift (stringField body "jwt")
  let config ← query fun state => match state.jwtConfig scope with
    | some config => .ok config
    | none => .error (err 503 "JWT auth is not configured")
  let role ← query fun state => match state.jwtRole scope roleName with
    | some role => .ok role
    | none => .error denied
  let verified ← lift (verifyJwt lib config jwt now)
  refuse (roleRefuses role scope.nspace verified = true) denied
  let token ← lift (jwtToken lib draws scope role verified now)
  let prepared ← lift (prepareIssue lib draws token now)
  admitExternalReplay lib scope (replayFingerprint lib verified) verified.expiresAt now
  Action.modify fun state => (state.jwtAtMut scope (·.insertIdentity (hash lib (verified.issuer ++ 0 :: verified.subject))
    (externalIdentity scope.nspace verified now))).insertToken prepared.1 token
  pure prepared.2

def jwtConfigInfo (config : JwtConfig) : Value := .object [
  (str "issuer", .string config.issuer),
  (str "audiences", .ofStrings config.audiences.toList),
  (str "required_namespace", (config.requiredNamespace.map Value.string).getD .null),
  (str "clock_skew_seconds", .ofNat config.clockSkewSeconds),
  (str "maximum_token_lifetime_seconds", .ofNat config.maximumTokenLifetimeSeconds),
  (str "keys", .array (config.keys.toList.map fun entry =>
    .object [(str "kid", .string entry.1), (str "algorithm", .string entry.2.algorithm)]))]

def jwtKey (known : Table JwtKeyRecord) (value : Value) : Except AuthError (Str × JwtKeyRecord) := do
  rejectUnknown value ["kid", "algorithm", "key_base64"]
  let kid ← stringField value "kid"
  if kid = [] ∨ 1024 < kid.length ∨ anyControl kid = true ∨ kid ∈ known then .error (bad "invalid or duplicate JWT key id")
  else do
    let algorithm ← stringField value "algorithm"
    if (jwtAlgorithm algorithm).isNone then .error (bad "unsupported JWT algorithm")
    else do
      let encoded ← stringField value "key_base64"
      match lib.decodeBase64 encoded with
      | none => .error (bad "invalid JWT key encoding")
      | some bytes =>
        if bytes = [] ∨ 16 * 1024 < bytes.length then .error (bad "JWT key is outside bounds")
        else .ok (kid, ⟨algorithm, bytes⟩)

def jwtKeys (lib : Library) : List Value → Table JwtKeyRecord → Except AuthError (Table JwtKeyRecord)
  | [], known => .ok known
  | value :: rest, known => do
    let key ← jwtKey lib known value
    jwtKeys lib rest (known.insert key.1 key.2)

def requiredNamespace (body : Value) (nspace : Str) : Except AuthError (Option Str) :=
  match body.get (str "required_namespace") with
  | none => .ok none
  | some value =>
    match value.asStr with
    | none => .error (bad "required_namespace must be a string")
    | some required =>
      if required ≠ nspace then .error (bad "required_namespace must equal the configured auth namespace")
      else .ok (some required)

def readJwtConfig (nspace : Str) (body : Value) : Except AuthError JwtConfig := do
  rejectUnknown body ["issuer", "audiences", "required_namespace", "clock_skew_seconds", "maximum_token_lifetime_seconds", "keys"]
  let issuer ← stringField body "issuer"
  let audiences ← claimValues body "audiences"
  let required ← requiredNamespace body nspace
  let clockSkew ← number body "clock_skew_seconds" 30
  let maximumLifetime ← number body "maximum_token_lifetime_seconds" 3600
  match (body.get (str "keys")).bind Value.asArray with
  | none => .error (bad "JWT keys must be an array")
  | some values =>
    if values = [] ∨ 64 < values.length then .error (bad "JWT key count is outside bounds")
    else do
      let keys ← jwtKeys lib values ∅
      let config : JwtConfig := ⟨issuer, audiences, required, clockSkew, maximumLifetime, keys⟩
      let _ ← config.verifier
      .ok config

variable (who : Option Principal)

def jwtConfigRoute (scope : AuthScope) (method : Str) (body : Value)
    (now : Nat) : AuthAction AuthResponse :=
  let path := str "auth/" ++ scope.mount ++ str "/config"
  if method = str "GET" then do
    let _ ← query fun state => state.permission who scope.nspace path (str "read") now
    lift (rejectUnknown body [])
    let config ← query fun state => match state.jwtConfig scope with
      | some config => .ok config
      | none => .error (err 404 "JWT auth is not configured")
    pure (response (jwtConfigInfo config) false)
  else if method = str "POST" ∨ method = str "PUT" then do
    let actor ← query fun state => state.permission who scope.nspace path (str "update") now
    query fun state => state.authorizeRequest actor scope.nspace path (str "sudo") now
    let config ← lift (readJwtConfig lib scope.nspace body)
    let mutated ← query fun state => .ok (decide (state.jwtConfig scope ≠ some config))
    Action.modify fun state => state.jwtAtMut scope (·.withConfig config)
    pure (empty mutated)
  else fail (err 405 "method not allowed")

def boundSubject (body : Value) : Except AuthError (Option Str) :=
  match body.get (str "bound_subject") with
  | none => .ok none
  | some value =>
    match value.asStr with
    | none => .error (bad "invalid bound subject")
    | some subject =>
      if subject = [] ∨ 1024 < subject.length ∨ anyControl subject = true then .error (bad "invalid bound subject")
      else .ok (some subject)

def readJwtRole (actor : Principal) (body : Value) : Except AuthError JwtRole := do
  rejectUnknown body ["bound_groups", "bound_subject", "bound_audiences", "policies", "token_policies", "token_ttl",
    "token_max_ttl", "token_num_uses"]
  let boundGroups ← claimValues body "bound_groups"
  let boundAudiences ← claimValues body "bound_audiences"
  let subject ← boundSubject body
  rejectAliasPair body "policies" "token_policies"
  let names ← policies body (aliased body "token_policies" "policies") ∅ true
  validateAssignment actor names
  let ttl ← duration body "token_ttl" defaultTtl
  let maximum ← duration body "token_max_ttl" ttl
  let uses ← number body "token_num_uses" 0
  if ttl = 0 ∨ maxTtl < ttl ∨ maximum < ttl ∨ maxTtl < maximum then .error (bad "JWT role token TTL is outside bounds")
  else .ok ⟨boundGroups, subject, boundAudiences, names, ttl, maximum, uses⟩

def jwtRoleInfo (role : JwtRole) : Value := .object [
  (str "bound_groups", .ofStrings role.boundGroups.toList),
  (str "bound_subject", (role.boundSubject.map Value.string).getD .null),
  (str "bound_audiences", .ofStrings role.boundAudiences.toList),
  (str "policies", .ofStrings role.policies.toList),
  (str "token_ttl", .ofNat role.tokenTtl),
  (str "token_max_ttl", .ofNat role.tokenMaxTtl),
  (str "token_num_uses", .ofNat role.tokenNumUses)]

def jwtRoleRoute (scope : AuthScope) (method name : Str) (body : Value) (now : Nat) :
    AuthAction AuthResponse :=
  let path := str "auth/" ++ scope.mount ++ str "/role/" ++ name
  if method = str "GET" then do
    let _ ← query fun state => state.permission who scope.nspace path (str "read") now
    lift (rejectUnknown body [])
    let role ← query fun state => match state.jwtRole scope name with
      | some role => .ok role
      | none => .error (err 404 "JWT role not found")
    pure (response (jwtRoleInfo role) false)
  else if method = str "POST" ∨ method = str "PUT" then do
    let actor ← query fun state => state.permission who scope.nspace path (str "update") now
    query fun state => state.authorizeRequest actor scope.nspace path (str "sudo") now
    let role ← lift (readJwtRole actor body)
    let mutated ← query fun state => .ok (decide (state.jwtRole scope name ≠ some role))
    Action.modify fun state => state.jwtAtMut scope (·.insertRole name role)
    pure (empty mutated)
  else if method = str "DELETE" then do
    let actor ← query fun state => state.permission who scope.nspace path (str "update") now
    query fun state => state.authorizeRequest actor scope.nspace path (str "sudo") now
    lift (rejectUnknown body [])
    let removed ← query fun state => .ok (state.jwtRole scope name).isSome
    Action.modify fun state => state.jwtAtMut scope (·.removeRole name)
    refuse (removed = false) (err 404 "JWT role not found")
    pure (empty true)
  else fail (err 405 "method not allowed")

def jwtRoleKeys (mount : Option JwtMountState) : List Str := (mount.map (·.roles.keys)).getD []

def jwtRoute (scope : AuthScope) (method path : Str)
    (body : Value) (now : Nat) : AuthAction AuthResponse :=
  if path = str "auth/" ++ scope.mount ++ str "/config" then jwtConfigRoute lib who scope method body now
  else if path = str "auth/" ++ scope.mount ++ str "/login" then loginJwt lib draws scope method body now
  else if path = str "auth/" ++ scope.mount ++ str "/role" then do
    refuse (method ∉ [str "GET", str "LIST"]) (err 405 "method not allowed")
    let _ ← query fun state => state.permission who scope.nspace path (str "list") now
    lift (rejectUnknown body [])
    let keys ← query fun state => .ok (jwtRoleKeys (state.jwtAt scope))
    pure (response (.object [(str "keys", .ofStrings keys)]) false)
  else match stripPrefix (str "auth/" ++ scope.mount ++ str "/role/") path with
    | some name => do
      refuse (validName name = false) (bad "invalid JWT role name")
      jwtRoleRoute who scope method name body now
    | none => fail (err 404 "JWT auth path is not implemented")

end HeptaBao.Auth
