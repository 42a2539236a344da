import HeptaBao.Auth.Acl

namespace HeptaBao.Auth

open Wire Std Durable Exec Action

variable (token : Token)

def issuedBody (raw : Str) (token : Token) (now : Nat) : Value := .object [(str "auth", .object [
  (str "client_token", .string raw),
  (str "accessor", .string token.accessor),
  (str "policies", .ofStrings token.policies.toList),
  (str "token_policies", .ofStrings token.policies.toList),
  (str "metadata", .object []),
  (str "lease_duration", .ofNat ((token.expiresAt.map (· - now)).getD 0)),
  (str "renewable", .bool token.renewable),
  (str "token_type", .string (str "service")),
  (str "orphan", .bool token.parent.isNone),
  (str "num_uses", .ofNat (token.usesRemaining.getD 0))])]

variable (lib : Library) (draws : Draws)

def rawToken : Except AuthError Str := randomId lib draws 1 "hvs."

def prepareIssue (token : Token) (now : Nat) : Except AuthError (Str × AuthResponse) :=
  (rawToken lib draws).map fun raw => (hash lib raw, ⟨200, issuedBody raw token now, true⟩)

variable (state : AuthState)

namespace AuthState

def insertToken (id : Str) (token : Token) : AuthState := state.withTokens (state.tokens.insert id token)

theorem insert_token_lookup (id other : Str) (token : Token) :
    (state.insertToken id token).lookup other = if id = other then some token else state.lookup other :=
  lookup_insert _ _ _ _

end AuthState

def issue (token : Token) (now : Nat) : AuthAction AuthResponse := do
  let prepared ← lift (prepareIssue lib draws token now)
  Action.modify fun state => state.insertToken prepared.1 token
  pure prepared.2

def tokenInfo (now : Nat) : Value := .object [
  (str "accessor", .string token.accessor),
  (str "policies", .ofStrings token.policies.toList),
  (str "display_name", .string token.displayName),
  (str "creation_time", .ofNat token.createdAt),
  (str "ttl", .ofNat ((token.expiresAt.map (· - now)).getD 0)),
  (str "expire_time_unix", .ofOption token.expiresAt),
  (str "explicit_max_ttl", .ofNat ((token.maxExpiresAt.map (· - token.createdAt)).getD 0)),
  (str "period", .ofNat token.period),
  (str "num_uses", .ofNat (token.usesRemaining.getD 0)),
  (str "renewable", .bool token.renewable),
  (str "orphan", .bool token.parent.isNone),
  (str "type", .string (str "service")),
  (str "namespace", .string token.nspace)]

variable (nspace : Str)

namespace AuthState

def findAccessor (wanted : Str) : Except AuthError Str :=
  match state.tokens.toList.find? (fun entry => entry.2.nspace == nspace && entry.2.accessor == wanted) with
  | some entry => .ok entry.1
  | none => .error denied

def targetId (body : Value) (accessor : Bool) : Except AuthError Str :=
  if accessor then do
    let wanted ← stringField body "accessor"
    state.findAccessor nspace wanted
  else (stringField body "token").map (hash lib)

def targetToken (body : Value) (accessor : Bool) : Except AuthError Str := do
  let id ← targetId lib state nspace body accessor
  if (state.lookup id).all (fun token => token.nspace != nspace) then .error denied else .ok id

def earlier (limit : Option Nat) (token : Token) : Option Nat :=
  match token.expiresAt with
  | none => limit
  | some expiry => some ((limit.map (min · expiry)).getD expiry)

-- Called after active_token has climbed the same parents to the top.
def ancestorLimit (id : Str) : Except AuthError (Option Nat) :=
  match Forest.foldUp state.lookup Token.parent earlier state.tokens.size ((state.lookup id).bind Token.parent) none with
  | some limit => .ok limit
  | none => .error denied

def stale (now : Nat) (id : Str) (token : Token) : Bool :=
  token.nspace == nspace && (state.activeToken id now true).toOption.isNone

def tidied (now : Nat) : AuthState :=
  state.withTokens (state.tokens.filter fun id token => !state.stale nspace now id token)

end AuthState

def accessorKeys (now : Nat) : List Str :=
  (state.tokens.values.filter fun token => token.nspace == nspace && !token.expired now).map Token.accessor

structure TokenTimes where
  expiresAt : Option Nat
  maxExpiresAt : Option Nat

def tokenTimes (body : Value) (parent : Token) (root noParent : Bool) (period now : Nat) : Except AuthError TokenTimes := do
  let asked ← duration body "ttl" defaultTtl
  let ttl := if 0 < period then period else if asked = 0 ∧ root = false then defaultTtl else asked
  if maxTtl < ttl then .error (bad "TTL exceeds maximum")
  else do
    let explicitMax ← duration body "explicit_max_ttl" 0
    if maxTtl < explicitMax then .error (bad "explicit maximum TTL exceeds service maximum")
    else do
      let maxExpiresAt ← if 0 < explicitMax then (checkedExpiry now explicitMax).map some
        else if period = 0 ∧ ¬(root = true ∧ ttl = 0) then (checkedExpiry now maxTtl).map some
        else .ok none
      let expiry ← if root = true ∧ ttl = 0 then .ok none else (checkedExpiry now ttl).map some
      let capped := match expiry, maxExpiresAt with
        | some expiry, some maximum => some (min expiry maximum)
        | expiry, _ => expiry
      let expiresAt := match noParent, parent.expiresAt with
        | false, some parentExpiry => some ((capped.map (min · parentExpiry)).getD parentExpiry)
        | _, _ => capped
      .ok ⟨expiresAt, maxExpiresAt⟩

def displayName (body : Value) : Except AuthError Str :=
  match body.get (str "display_name") with
  | none => .ok (str "token")
  | some value =>
    match value.asStr with
    | none => .error (bad "display name must be a string")
    | some name => .ok name

variable (actor : Principal)

def createToken (nspace path : Str) (body : Value) (now : Nat)
    (forceOrphan : Bool) : AuthAction AuthResponse := do
  lift (rejectUnknown body ["policies", "ttl", "explicit_max_ttl", "period", "num_uses", "renewable", "no_parent",
    "no_default_policy", "display_name", "type"])
  refuse ((body.get (str "type")).any (fun value => value.asStr != some (str "service")) = true)
    (bad "only service tokens are supported")
  let parent ← query fun state => state.checkPrincipal actor nspace now
  refuse (parent.usesRemaining.isSome = true) (bad "limited-use tokens cannot create child tokens")
  let noDefault ← lift (boolean body "no_default_policy" false)
  let requested ← lift (policies body "policies" parent.policies !noDefault)
  refuse (parent.root = false ∧ (isSubset requested parent.policies = false ∨ str "root" ∈ requested)) denied
  let root := requested.contains (str "root")
  refuse (root = true ∧ (requested.size ≠ 1 ∨ nspace ≠ [])) (bad "root policy must be exclusive and in root namespace")
  let noParent ← lift (if forceOrphan then .ok true else boolean body "no_parent" false)
  let period ← lift (duration body "period" 0)
  query fun state =>
    if noParent = true ∨ 0 < period then state.authorizeRequest actor nspace path (str "sudo") now else .ok ()
  refuse (maxTtl < period) (bad "period exceeds maximum TTL")
  let times ← lift (tokenTimes body parent root noParent period now)
  let name ← lift (displayName body)
  refuse (128 < name.length) (bad "display name too long")
  let accessor ← lift (randomId lib draws 0 "a.")
  let renewable ← lift (boolean body "renewable" true)
  let uses ← lift (number body "num_uses" 0)
  issue lib draws {
    accessor := accessor
    nspace := nspace
    policies := requested
    root := root
    parent := if noParent then none else some actor.digest
    createdAt := now
    expiresAt := times.expiresAt
    maxExpiresAt := times.maxExpiresAt
    period := period
    renewable := renewable && times.expiresAt.isSome
    usesRemaining := unlimitedZero uses
    displayName := name
    authMount := parent.authMount
    authOriginKnown := parent.root || parent.authOriginKnown } now

def renewedBody (expiresAt now : Nat) : Value := .object [(str "auth", .object [
  (str "accessor", .string token.accessor),
  (str "policies", .ofStrings token.policies.toList),
  (str "token_policies", .ofStrings token.policies.toList),
  (str "lease_duration", .ofNat (expiresAt - now)),
  (str "renewable", .bool true),
  (str "token_type", .string (str "service"))])]

variable (op : Str)

def renewTarget (nspace : Str) (op : Str) (body : Value) : AuthAction Str :=
  if op = str "renew-self" then do
    lift (rejectUnknown body ["increment"])
    pure actor.digest
  else do
    lift (rejectUnknown body (if op = str "renew" then ["token", "increment"] else ["accessor", "increment"]))
    query fun state => AuthState.targetToken lib state nspace body (op == str "renew-accessor")

def renewal (limit : Option Nat) (increment now : Nat) : Except AuthError Nat := do
  if token.renewable = false then .error (bad "token is not renewable")
  else do
    let ttl := if 0 < token.period then token.period else if increment = 0 then defaultTtl else min increment maxTtl
    let proposed ← checkedExpiry now ttl
    let capped := (token.maxExpiresAt.map (min proposed ·)).getD proposed
    let expiresAt := (limit.map (min capped ·)).getD capped
    if expiresAt ≤ now then .error denied else .ok expiresAt

def renewToken (nspace op : Str) (body : Value) (now : Nat) :
    AuthAction AuthResponse := do
  let id ← renewTarget lib actor nspace op body
  let token ← query fun state => state.activeToken id now false
  let limit ← query fun state => state.ancestorLimit id
  let increment ← lift (duration body "increment" defaultTtl)
  let expiresAt ← lift (renewal token limit increment now)
  Action.modify fun state => state.insertToken id (token.renewed expiresAt)
  pure ⟨200, renewedBody token expiresAt now, true⟩

def tokenMethods : List Str :=
  if op = str "lookup-self" ∨ op = str "lookup" ∨ op = str "lookup-accessor" then [str "GET", str "POST"]
  else if op = str "accessors" then [str "LIST", str "GET"]
  else [str "POST", str "PUT"]

def tokenCapability : Str :=
  if op = str "lookup-self" ∨ op = str "lookup" ∨ op = str "lookup-accessor" then str "read"
  else if op = str "accessors" then str "list"
  else str "update"

def targetField (plain : Str) : List String := if op = plain then ["token"] else ["accessor"]

def tokenRoute (who : Option Principal) (nspace method path : Str) (body : Value)
    (now : Nat) : AuthAction AuthResponse := do
  let op ← lift (match stripPrefix (str "auth/token/") path with
    | some op => .ok op
    | none => .error (bad "invalid token path"))
  refuse (method ∉ tokenMethods op) (err 405 "method not allowed")
  let actor ← query fun state => state.permission who nspace path (tokenCapability op) now
  if op = str "create" ∨ op = str "create-orphan" then
    createToken lib draws actor nspace path body now (op == str "create-orphan")
  else if op = str "lookup-self" then do
    lift (rejectUnknown body [])
    let token ← query fun state => match state.lookup actor.digest with
      | some token => .ok token
      | none => .error denied
    pure (response (tokenInfo token now) false)
  else if op = str "lookup" ∨ op = str "lookup-accessor" then do
    lift (rejectUnknown body (targetField op (str "lookup")))
    let id ← query fun state => AuthState.targetToken lib state nspace body (op == str "lookup-accessor")
    let token ← query fun state => state.activeToken id now true
    pure (response (tokenInfo token now) false)
  else if op = str "accessors" then do
    query fun state => state.authorizeRequest actor nspace path (str "sudo") now
    let keys ← query fun state => .ok (accessorKeys state nspace now)
    pure (response (.object [(str "keys", .ofStrings keys)]) false)
  else if op = str "tidy" then do
    lift (rejectUnknown body [])
    query fun state => state.authorizeRequest actor nspace path (str "sudo") now
    let removed ← query fun state =>
      .ok (state.tokens.toList.filter fun entry => state.stale nspace now entry.1 entry.2).length
    Action.modify fun state => state.tidied nspace now
    pure (response (.object [(str "removed_tokens", .ofNat removed)]) (decide (0 < removed)))
  else if op = str "revoke-self" then do
    lift (rejectUnknown body [])
    Action.modify fun state => state.revoke actor.digest
    pure (empty true)
  else if op = str "revoke" ∨ op = str "revoke-accessor" then do
    lift (rejectUnknown body (targetField op (str "revoke")))
    let id ← query fun state => AuthState.targetToken lib state nspace body (op == str "revoke-accessor")
    Action.modify fun state => state.revoke id
    pure (empty true)
  else if op = str "renew-self" ∨ op = str "renew" ∨ op = str "renew-accessor" then
    renewToken lib actor nspace op body now
  else fail (err 404 "unsupported token operation")

end HeptaBao.Auth
