import HeptaBao.Auth.Records

namespace HeptaBao.Auth

open Wire Std Durable Exec Action

variable (state : AuthState) (nspace path : Str)

def mountAt : Option (Str × AuthMount × Str) :=
  (stripPrefix (str "auth/") path).bind (findMount (state.effectiveAuthMounts nspace))

inductive Login where
  | userpass (name : Str)
  | approle
  | jwt
deriving DecidableEq

def loginAt : Option (AuthScope × Login) :=
  (mountAt state nspace path).bind fun (mount, entry, suffix) =>
    if entry.kind = str "userpass" ∧ (str "login/").isPrefixOf suffix then some (⟨nspace, mount⟩, .userpass (suffix.drop 6))
    else if entry.kind = str "approle" ∧ suffix = str "login" then some (⟨nspace, mount⟩, .approle)
    else if entry.kind = str "jwt" ∧ suffix = str "login" then some (⟨nspace, mount⟩, .jwt)
    else none

def createAt : Bool :=
  (mountAt state nspace path).any fun (mount, entry, suffix) =>
    mount == str "token" && entry.kind == str "token" && (suffix == str "create" || suffix == str "create-orphan")

def Permitted (who : Option Principal) (nspace : Str) (now : Nat) (actor : Principal) : Prop :=
  who = some actor ∧ ∃ token, state.checkPrincipal actor nspace now = .ok token

inductive UserCause (lib : Library) (draws : Draws) (actor : Principal) (existing : Option User) : User → Prop where
  | mfaRemoved (old : User) (found : existing = some old) : UserCause lib draws actor existing (old.withMfa none)
  | mfaEnrolled (old : User) (secret : Bytes) (found : existing = some old) :
      UserCause lib draws actor existing (old.withMfa (some (freshEnrollment secret)))
  | updated (body : Value) (user : User) (made : updatedUser lib draws actor existing body = .ok user) :
      UserCause lib draws actor existing user

inductive RoleCause (lib : Library) (draws : Draws) (actor : Principal) (existing : Option Role) (now : Nat) : Role → Prop where
  | renamed (old : Role) (roleId : Str) (found : existing = some old) :
      RoleCause lib draws actor existing now (old.withRoleId roleId)
  | secretAdded (old : Role) (body : Value) (made : Str × SecretId × Nat × Nat) (found : existing = some old)
      (drawn : newSecretId lib draws old body now = .ok made) :
      RoleCause lib draws actor existing now (old.withSecretIds (old.secretIds.insert (hash lib made.1) made.2.1))
  | secretDestroyed (old : Role) (id : Str) (found : existing = some old) :
      RoleCause lib draws actor existing now (old.withSecretIds (old.secretIds.erase id))
  | updated (body : Value) (role : Role) (made : updatedRole lib draws actor existing body = .ok role) :
      RoleCause lib draws actor existing now role

structure Created (lib : Library) (draws : Draws) (state : AuthState) (actor : Principal) (nspace : Str) (body : Value)
    (now : Nat) (parent : Token) (noParent : Bool) (token : Token) : Prop where
  checked : state.checkPrincipal actor nspace now = .ok parent
  unlimited : parent.usesRemaining = none
  within : parent.root = true ∨ (∀ name ∈ token.policies, name ∈ parent.policies) ∧ str "root" ∉ token.policies
  named : ∃ noDefault, boolean body "no_default_policy" false = .ok noDefault ∧
    policies body "policies" parent.policies (!noDefault) = .ok token.policies
  root : token.root = token.policies.contains (str "root")
  exclusive : token.root = true → nspace = []
  nspaced : token.nspace = nspace
  under : token.parent = if noParent then none else some actor.digest
  timed : ∃ period times, tokenTimes body parent token.root noParent period now = .ok times ∧
    duration body "period" 0 = .ok period ∧ token.period = period ∧
    token.expiresAt = times.expiresAt ∧ token.maxExpiresAt = times.maxExpiresAt
  mounted : token.authMount = parent.authMount
  known : token.authOriginKnown = (parent.root || parent.authOriginKnown)
  accessor : randomId lib draws 0 "a." = .ok token.accessor
  budget : ∃ uses, number body "num_uses" 0 = .ok uses ∧ token.usesRemaining = unlimitedZero uses

structure UserLogin (lib : Library) (draws : Draws) (state : AuthState) (scope : AuthScope) (name : Str) (body : Value)
    (now : Nat) (user : User) (counter : Option Nat) (token : Token) : Prop where
  found : state.user scope name = some user
  accepted : acceptedCounter lib user body now = .ok counter
  made : loginToken lib draws scope user.policies user.tokenTtl user.tokenMaxTtl user.tokenNumUses
    (str "userpass-" ++ name) now = .ok token

structure RoleLogin (lib : Library) (draws : Draws) (state : AuthState) (scope : AuthScope) (name secretId : Str)
    (body : Value) (now : Nat) (old role : Role) (token : Token) : Prop where
  identified : ∃ roleId, stringField body "role_id" = .ok roleId ∧ findRole (state.rolesAt scope) roleId =
    some (name, old)
  presented : stringField body "secret_id" = .ok secretId
  found : state.role scope name = some old
  spent : spentRole lib old secretId now = .ok role
  made : loginToken lib draws scope role.policies role.tokenTtl role.tokenMaxTtl role.tokenNumUses
    (str "approle-" ++ name) now = .ok token

structure JwtLogin (lib : Library) (draws : Draws) (state : AuthState) (scope : AuthScope) (roleName jwt : Str)
    (now : Nat) (config : JwtConfig) (role : JwtRole) (verified : VerifiedPrincipal) (token : Token) : Prop where
  configured : state.jwtConfig scope = some config
  found : state.jwtRole scope roleName = some role
  verifies : verifyJwt lib config jwt now = .ok verified
  bound : roleRefuses role scope.nspace verified = false
  made : jwtToken lib draws scope role verified now = .ok token
  current : ((state.jwtAt scope).getD .default).lastAdmissionTime ≤ now
  unseen : ¬((state.jwtAt scope).getD .default).replay[lib.encodeBase64 (replayFingerprint lib verified)]?.any
    (now < ·) = true

def afterJwtLogin (lib : Library) (state : AuthState) (scope : AuthScope) (verified : VerifiedPrincipal) (id : Str)
    (token : Token) (now : Nat) : AuthState :=
  (state.jwtAtMut scope fun mount =>
    (mount.admitted (lib.encodeBase64 (replayFingerprint lib verified)) verified.expiresAt now).insertIdentity
      (hash lib (verified.issuer ++ 0 :: verified.subject)) (externalIdentity scope.nspace verified now)).insertToken id token

-- Everything one call of handle can do to the state.
inductive Change (lib : Library) (draws : Draws) (who : Option Principal) (nspace path : Str) (now : Nat)
    (state : AuthState) : AuthState → Prop where
  | same : Change lib draws who nspace path now state state
  | mountEnabled (actor : Principal) (mount : Str) (entry : AuthMount) (permitted : Permitted state who nspace now actor)
      (kind : entry.kind ∈ [str "userpass", str "approle", str "jwt"]) (reserved : mount ≠ str "token")
      (consistent : ∀ old, (state.effectiveAuthMounts nspace)[mount]? = some old → old.kind = entry.kind)
      (apart : overlaps (state.effectiveAuthMounts nspace) mount = false) :
      Change lib draws who nspace path now state
        (state.withMounts nspace ((state.effectiveAuthMounts nspace).insert mount entry))
  | mountMissing (actor : Principal) (mount : Str) (permitted : Permitted state who nspace now actor)
      (absent : mount ∉ state.effectiveAuthMounts nspace) :
      Change lib draws who nspace path now state
        (state.withMounts nspace ((state.effectiveAuthMounts nspace).erase mount))
  | mountDisabled (actor : Principal) (mount : Str) (permitted : Permitted state who nspace now actor)
      (reserved : mount ≠ str "token") (present : mount ∈ state.effectiveAuthMounts nspace) :
      Change lib draws who nspace path now state
        ((state.withMounts nspace ((state.effectiveAuthMounts nspace).erase mount)).disableAuthMount ⟨nspace, mount⟩)
  | policyWritten (actor : Principal) (name : Str) (policy : Policy) (permitted : Permitted state who nspace now actor) :
      Change lib draws who nspace path now state (state.insertPolicy nspace name policy)
  | policyRemoved (actor : Principal) (name : Str) (permitted : Permitted state who nspace now actor) :
      Change lib draws who nspace path now state (state.removePolicy nspace name)
  | tokenCreated (actor : Principal) (body : Value) (parent : Token) (noParent : Bool) (raw : Str) (token : Token)
      (permitted : Permitted state who nspace now actor)
      (created : Created lib draws state actor nspace body now parent noParent token)
      (drawn : rawToken lib draws = .ok raw) (asked : createAt state nspace path = true) :
      Change lib draws who nspace path now state (state.insertToken (hash lib raw) token)
  | tidied (actor : Principal) (permitted : Permitted state who nspace now actor) :
      Change lib draws who nspace path now state (state.tidied nspace now)
  | revoked (actor : Principal) (id : Str) (permitted : Permitted state who nspace now actor)
      (target : id = actor.digest ∨ ∃ token, state.lookup id = some token ∧ token.nspace = nspace) :
      Change lib draws who nspace path now state (state.revoke id)
  | renewed (actor : Principal) (id : Str) (token : Token) (limit : Option Nat) (increment expiresAt : Nat)
      (permitted : Permitted state who nspace now actor)
      (target : id = actor.digest ∨ ∃ stored, state.lookup id = some stored ∧ stored.nspace = nspace)
      (active : state.activeToken id now false = .ok token) (limited : state.ancestorLimit id = .ok limit)
      (granted : renewal token limit increment now = .ok expiresAt) :
      Change lib draws who nspace path now state (state.insertToken id (token.renewed expiresAt))
  | userWritten (actor : Principal) (mount name : Str) (user : User) (permitted : Permitted state who nspace now actor)
      (cause : UserCause lib draws actor (state.user ⟨nspace, mount⟩ name) user)
      (routed : mount ∈ state.effectiveAuthMounts nspace) :
      Change lib draws who nspace path now state (state.insertUser ⟨nspace, mount⟩ name user)
  | userRemoved (actor : Principal) (mount name : Str) (permitted : Permitted state who nspace now actor)
      (routed : mount ∈ state.effectiveAuthMounts nspace) :
      Change lib draws who nspace path now state (state.removeUser ⟨nspace, mount⟩ name)
  | userLogin (mount name : Str) (body : Value) (user : User) (counter : Option Nat) (raw : Str) (token : Token)
      (login : UserLogin lib draws state ⟨nspace, mount⟩ name body now user counter token)
      (drawn : rawToken lib draws = .ok raw)
      (asked : loginAt state nspace path = some (⟨nspace, mount⟩, .userpass name)) :
      Change lib draws who nspace path now state
        ((state.insertUser ⟨nspace, mount⟩ name (user.accept counter)).insertToken (hash lib raw) token)
  | roleWritten (actor : Principal) (mount name : Str) (role : Role) (permitted : Permitted state who nspace now actor)
      (cause : RoleCause lib draws actor (state.role ⟨nspace, mount⟩ name) now role)
      (routed : mount ∈ state.effectiveAuthMounts nspace) :
      Change lib draws who nspace path now state (state.insertRole ⟨nspace, mount⟩ name role)
  | roleRemoved (actor : Principal) (mount name : Str) (permitted : Permitted state who nspace now actor)
      (routed : mount ∈ state.effectiveAuthMounts nspace) :
      Change lib draws who nspace path now state (state.removeRole ⟨nspace, mount⟩ name)
  | rolesTidied (actor : Principal) (mount : Str) (permitted : Permitted state who nspace now actor)
      (routed : mount ∈ state.effectiveAuthMounts nspace) :
      Change lib draws who nspace path now state
        (state.rolesAtMut ⟨nspace, mount⟩ (·.map fun _ role => role.tidied now))
  | roleLogin (mount name secretId : Str) (body : Value) (old role : Role) (raw : Str) (token : Token)
      (login : RoleLogin lib draws state ⟨nspace, mount⟩ name secretId body now old role token)
      (drawn : rawToken lib draws = .ok raw)
      (asked : loginAt state nspace path = some (⟨nspace, mount⟩, .approle)) :
      Change lib draws who nspace path now state
        ((state.insertToken (hash lib raw) token).insertRole ⟨nspace, mount⟩ name role)
  | jwtConfigured (actor : Principal) (mount : Str) (config : JwtConfig) (permitted : Permitted state who nspace now actor)
      (routed : mount ∈ state.effectiveAuthMounts nspace) :
      Change lib draws who nspace path now state (state.jwtAtMut ⟨nspace, mount⟩ (·.withConfig config))
  | jwtRoleWritten (actor : Principal) (mount name : Str) (body : Value) (role : JwtRole)
      (permitted : Permitted state who nspace now actor) (made : readJwtRole actor body = .ok role)
      (routed : mount ∈ state.effectiveAuthMounts nspace) :
      Change lib draws who nspace path now state (state.jwtAtMut ⟨nspace, mount⟩ (·.insertRole name role))
  | jwtRoleRemoved (actor : Principal) (mount name : Str) (permitted : Permitted state who nspace now actor)
      (routed : mount ∈ state.effectiveAuthMounts nspace) :
      Change lib draws who nspace path now state (state.jwtAtMut ⟨nspace, mount⟩ (·.removeRole name))
  | jwtTouched (mount : Str) (present : ∃ config, state.jwtConfig ⟨nspace, mount⟩ = some config)
      (routed : mount ∈ state.effectiveAuthMounts nspace) :
      Change lib draws who nspace path now state (state.jwtAtMut ⟨nspace, mount⟩ id)
  | jwtLogin (mount roleName jwt : Str) (config : JwtConfig) (role : JwtRole) (verified : VerifiedPrincipal) (raw : Str)
      (token : Token) (login : JwtLogin lib draws state ⟨nspace, mount⟩ roleName jwt now config role verified token)
      (drawn : rawToken lib draws = .ok raw)
      (asked : loginAt state nspace path = some (⟨nspace, mount⟩, .jwt)) :
      Change lib draws who nspace path now state
        (afterJwtLogin lib state ⟨nspace, mount⟩ verified (hash lib raw) token now)

variable (lib : Library) (draws : Draws) (who : Option Principal) (nspace path : Str) (now : Nat) (state : AuthState)

abbrev Changes {α : Type} (action : AuthAction α) : Prop :=
  Ends action state fun _ reached => Change lib draws who nspace path now state reached

variable {who nspace now state} in
theorem permitted_of {route power : Str} {actor : Principal}
    (granted : state.permission who nspace route power now = .ok actor) : Permitted state who nspace now actor :=
  state.permission_ok who nspace route power now actor granted

variable {lib draws who nspace path now state}

theorem changes_lift {α β : Type} {res : Except AuthError α} {next : α → AuthAction β}
    (continues : ∀ value, res = .ok value → Changes lib draws who nspace path now state (next value)) :
    Changes lib draws who nspace path now state (lift res >>= next) :=
  ends_lift_cases (fun _ _ => .same) continues

theorem changes_query {α β : Type} {look : AuthState → Except AuthError α} {next : α → AuthAction β}
    (continues : ∀ value, look state = .ok value → Changes lib draws who nspace path now state (next value)) :
    Changes lib draws who nspace path now state (query look >>= next) :=
  ends_query (fun _ _ => .same) continues

theorem changes_refuse {β : Type} {condition : Prop} [Decidable condition] {flaw : AuthError}
    {next : Unit → AuthAction β}
    (continues : ¬condition → Changes lib draws who nspace path now state (next ())) :
    Changes lib draws who nspace path now state (refuse condition flaw >>= next) :=
  ends_refuse (fun _ => .same) continues

theorem changes_pure {α : Type} {value : α} : Changes lib draws who nspace path now state (pure value) := .same

theorem changes_fail {α : Type} {flaw : AuthError} :
    Changes lib draws who nspace path now state (fail flaw : AuthAction α) :=
  .same

end HeptaBao.Auth
