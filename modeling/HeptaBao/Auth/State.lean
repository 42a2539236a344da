import HeptaBao.Auth.Fields
import HeptaBao.Exec.Action

namespace HeptaBao.Auth

open Wire Std Durable ExtTreeMap

abbrev Table (β : Type) := ExtTreeMap Str β

def changeEntry {β : Type} (table : Table β) (key : Str) (default : β) (change : β → β) : Table β :=
  table.insert key (change (table.getD key default))

theorem change_entry_lookup {β : Type} (table : Table β) (key other : Str) (default : β) (change : β → β) :
    (changeEntry table key default change)[other]? =
      if key = other then some (change (table.getD key default)) else table[other]? := lookup_insert _ _ _ _

theorem change_entry_getD {β : Type} (table : Table β) (key other : Str) (default : β) (change : β → β) :
    (changeEntry table key default change).getD other default =
      if key = other then change (table.getD key default) else table.getD other default := by
  rw [getD_eq_getD_getElem?, change_entry_lookup]
  by_cases same : key = other
  · simp [same]
  · simp [same, getD_eq_getD_getElem?]

theorem change_entry_twice {β : Type} (table : Table β) (key : Str) (default : β) (first second : β → β) :
    changeEntry (changeEntry table key default first) key default second =
      changeEntry table key default fun value => second (first value) := by
  apply ExtTreeMap.ext_getElem?
  intro other
  rw [change_entry_lookup, change_entry_lookup, change_entry_lookup, change_entry_getD]
  by_cases same : key = other <;> simp [same]

theorem nested_lookup {β : Type} (table : Table (Table β)) (outer inner otherOuter otherInner : Str) (default : β)
    (change : β → β) :
    (changeEntry table outer ∅ (changeEntry · inner default change))[otherOuter]?.bind (·[otherInner]?) =
      if outer = otherOuter ∧ inner = otherInner then some (change ((table[outer]?.bind (·[inner]?)).getD default))
      else table[otherOuter]?.bind (·[otherInner]?) := by
  rw [change_entry_lookup]
  by_cases sameOuter : outer = otherOuter
  · subst sameOuter
    have entry : table.getD outer ∅ = (table[outer]?).getD ∅ := getD_eq_getD_getElem?
    simp only [if_true, Option.bind_some, change_entry_lookup, entry, true_and]
    by_cases sameInner : inner = otherInner
    · subst sameInner
      cases table[outer]? <;> simp [getD_eq_getD_getElem?]
    · cases table[outer]? <;> simp [sameInner]
  · simp [sameOuter]

structure Token where
  accessor : Str
  nspace : Str
  policies : Names
  root : Bool
  parent : Option Str
  createdAt : Nat
  expiresAt : Option Nat
  maxExpiresAt : Option Nat
  period : Nat
  renewable : Bool
  usesRemaining : Option Nat
  displayName : Str
  authMount : Option Str
  authOriginKnown : Bool
deriving DecidableEq

structure Rule where
  path : Str
  capabilities : Names
deriving DecidableEq

structure Policy where
  source : Str
  rules : List Rule
deriving DecidableEq

structure TotpEnrollment where
  secret : Bytes
  periodSeconds : Nat
  digits : Nat
  lastAcceptedCounter : Option Nat
deriving DecidableEq

structure User where
  salt : Bytes
  verifier : Bytes
  rounds : Nat
  policies : Names
  tokenTtl : Nat
  tokenMaxTtl : Nat
  tokenNumUses : Nat
  mfa : Option TotpEnrollment
deriving DecidableEq

structure SecretId where
  accessor : Str
  expiresAt : Option Nat
  usesRemaining : Option Nat
deriving DecidableEq

structure Role where
  roleId : Str
  policies : Names
  tokenTtl : Nat
  tokenMaxTtl : Nat
  tokenNumUses : Nat
  secretIdTtl : Nat
  secretIdNumUses : Nat
  secretIds : Table SecretId
deriving DecidableEq

structure JwtKeyRecord where
  algorithm : Str
  bytes : Bytes
deriving DecidableEq

structure JwtConfig where
  issuer : Str
  audiences : Names
  requiredNamespace : Option Str
  clockSkewSeconds : Nat
  maximumTokenLifetimeSeconds : Nat
  keys : Table JwtKeyRecord
deriving DecidableEq

structure JwtRole where
  boundGroups : Names
  boundSubject : Option Str
  boundAudiences : Names
  policies : Names
  tokenTtl : Nat
  tokenMaxTtl : Nat
  tokenNumUses : Nat
deriving DecidableEq

structure ExternalIdentity where
  issuer : Str
  subject : Str
  nspace : Str
  groups : Names
  lastSeen : Nat
deriving DecidableEq

structure JwtMountState where
  config : Option JwtConfig
  roles : Table JwtRole
  identities : Table ExternalIdentity
  replay : Table Nat
  lastAdmissionTime : Nat
deriving DecidableEq

def JwtMountState.default : JwtMountState := ⟨none, ∅, ∅, ∅, 0⟩

structure AuthMount where
  kind : Str
  description : Str
deriving DecidableEq

def AuthMount.new (kind description : String) : AuthMount := ⟨str kind, str description⟩

def AuthMount.descriptor (mount : AuthMount) : Value := .object [
  (str "type", .string mount.kind),
  (str "description", .string mount.description),
  (str "local", .bool false),
  (str "seal_wrap", .bool false),
  (str "options", .object []),
  (str "config", .object [
    (str "default_lease_ttl", .ofNat 0), (str "max_lease_ttl", .ofNat 0), (str "force_no_cache", .bool false)])]

def legacyAuthMounts : Table AuthMount := ExtTreeMap.ofList [
  (str "token", AuthMount.new "token" "token based credentials"),
  (str "userpass", AuthMount.new "userpass" "username and password credentials"),
  (str "approle", AuthMount.new "approle" "machine role credentials")]

structure AuthScope where
  nspace : Str
  mount : Str
deriving DecidableEq

structure AuthState where
  tokens : Table Token
  policies : Table (Table Policy)
  users : Table (Table User)
  roles : Table (Table Role)
  mountedUsers : Table (Table (Table User))
  mountedRoles : Table (Table (Table Role))
  authMounts : Table (Table AuthMount)
  jwtMounts : Table (Table JwtMountState)
deriving DecidableEq

-- Owned by one dispatcher invocation: the token as authenticate left it.
structure Principal where
  digest : Str
  token : Token
deriving DecidableEq

abbrev AuthAction := Exec.Action AuthState AuthError

namespace AuthState

variable (state : AuthState) (nspace : Str)

def effectiveAuthMounts : Table AuthMount :=
  state.authMounts[nspace]?.getD legacyAuthMounts

variable (scope : AuthScope)

def usersAt : Option (Table User) :=
  if scope.mount = str "userpass" then state.users[scope.nspace]?
  else state.mountedUsers[scope.nspace]?.bind (·[scope.mount]?)

def rolesAt : Option (Table Role) :=
  if scope.mount = str "approle" then state.roles[scope.nspace]?
  else state.mountedRoles[scope.nspace]?.bind (·[scope.mount]?)

def jwtAt : Option JwtMountState :=
  state.jwtMounts[scope.nspace]?.bind (·[scope.mount]?)

def withTokens (tokens : Table Token) : AuthState := { state with tokens := tokens }

variable (change : Table User → Table User)

def usersAtMut : AuthState :=
  if scope.mount = str "userpass" then { state with users := changeEntry state.users scope.nspace ∅ change }
  else { state with mountedUsers := changeEntry state.mountedUsers scope.nspace ∅ (changeEntry · scope.mount ∅ change) }

def rolesAtMut (change : Table Role → Table Role) : AuthState :=
  if scope.mount = str "approle" then { state with roles := changeEntry state.roles scope.nspace ∅ change }
  else { state with mountedRoles := changeEntry state.mountedRoles scope.nspace ∅ (changeEntry · scope.mount ∅ change) }

def jwtAtMut (change : JwtMountState → JwtMountState) : AuthState :=
  { state with jwtMounts := changeEntry state.jwtMounts scope.nspace ∅ (changeEntry · scope.mount .default change) }

def dropJwt : AuthState :=
  match state.jwtMounts[scope.nspace]? with
  | none => state
  | some mounts => { state with jwtMounts := state.jwtMounts.insert scope.nspace (mounts.erase scope.mount) }

def withMounts (entries : Table AuthMount) : AuthState :=
  { state with authMounts := state.authMounts.insert nspace entries }

variable (name : Str)

def insertPolicy (policy : Policy) : AuthState :=
  { state with policies := changeEntry state.policies nspace ∅ (·.insert name policy) }

def removePolicy : AuthState :=
  match state.policies[nspace]? with
  | none => state
  | some entries => { state with policies := state.policies.insert nspace (entries.erase name) }

theorem jwt_at_mut_twice (first second : JwtMountState → JwtMountState) :
    (state.jwtAtMut scope first).jwtAtMut scope second = state.jwtAtMut scope fun mount => second (first mount) := by
  simp only [jwtAtMut, change_entry_twice]

variable (other : AuthScope)

theorem users_at_mut_read (change : Table User → Table User) : (state.usersAtMut scope change).usersAt other =
      if scope = other then some (change ((state.usersAt scope).getD ∅)) else state.usersAt other := by
  obtain ⟨_, mount⟩ := scope
  obtain ⟨_, otherMount⟩ := other
  simp only [usersAtMut, usersAt, AuthScope.mk.injEq]
  by_cases legacy : mount = str "userpass"
  · subst legacy
    by_cases otherLegacy : otherMount = str "userpass"
    · simp [otherLegacy, change_entry_lookup, getD_eq_getD_getElem?]
    · simp [otherLegacy, Ne.symm otherLegacy]
  · by_cases otherLegacy : otherMount = str "userpass"
    · simp [legacy, otherLegacy]
    · simp [legacy, otherLegacy, nested_lookup]

theorem roles_at_mut_read (change : Table Role → Table Role) : (state.rolesAtMut scope change).rolesAt other =
      if scope = other then some (change ((state.rolesAt scope).getD ∅)) else state.rolesAt other := by
  obtain ⟨_, mount⟩ := scope
  obtain ⟨_, otherMount⟩ := other
  simp only [rolesAtMut, rolesAt, AuthScope.mk.injEq]
  by_cases legacy : mount = str "approle"
  · subst legacy
    by_cases otherLegacy : otherMount = str "approle"
    · simp [otherLegacy, change_entry_lookup, getD_eq_getD_getElem?]
    · simp [otherLegacy, Ne.symm otherLegacy]
  · by_cases otherLegacy : otherMount = str "approle"
    · simp [legacy, otherLegacy]
    · simp [legacy, otherLegacy, nested_lookup]

theorem jwt_at_mut_read (change : JwtMountState → JwtMountState) : (state.jwtAtMut scope change).jwtAt other =
      if scope = other then some (change ((state.jwtAt scope).getD .default)) else state.jwtAt other := by
  obtain ⟨_, _⟩ := scope
  obtain ⟨_, _⟩ := other
  simp only [jwtAtMut, jwtAt, nested_lookup, AuthScope.mk.injEq]

theorem drop_jwt_read : (state.dropJwt scope).jwtAt other = if scope = other then none else state.jwtAt other := by
  obtain ⟨nspace, mount⟩ := scope
  obtain ⟨otherNspace, otherMount⟩ := other
  simp only [dropJwt, jwtAt, AuthScope.mk.injEq]
  cases stored : state.jwtMounts[nspace]? with
  | none =>
    by_cases same : nspace = otherNspace
    · subst same
      simp [stored]
    · simp [same]
  | some =>
    simp only [lookup_insert]
    by_cases same : nspace = otherNspace
    · subst same
      by_cases sameMount : mount = otherMount
      · simp [sameMount]
      · simp [sameMount, stored, getElem?_erase]
    · simp [same]

@[simp] theorem with_tokens_tokens (tokens : Table Token) : (state.withTokens tokens).tokens = tokens := rfl

@[simp] theorem users_at_mut_tokens : (state.usersAtMut scope change).tokens = state.tokens := by
  unfold usersAtMut
  split <;> rfl

@[simp] theorem roles_at_mut_tokens (change : Table Role → Table Role) : (state.rolesAtMut scope change).tokens =
    state.tokens := by
  unfold rolesAtMut
  split <;> rfl

@[simp] theorem jwt_at_mut_tokens (change : JwtMountState → JwtMountState) : (state.jwtAtMut scope change).tokens =
    state.tokens :=
  rfl

@[simp] theorem drop_jwt_tokens : (state.dropJwt scope).tokens = state.tokens := by
  unfold dropJwt
  split <;> rfl

@[simp] theorem with_mounts_tokens (entries : Table AuthMount) : (state.withMounts nspace entries).tokens =
    state.tokens :=
  rfl

@[simp] theorem insert_policy_tokens (policy : Policy) : (state.insertPolicy nspace name policy).tokens =
    state.tokens :=
  rfl

@[simp] theorem remove_policy_tokens : (state.removePolicy nspace name).tokens = state.tokens := by
  unfold removePolicy
  split <;> rfl

@[simp] theorem users_at_mut_mounts : (state.usersAtMut scope change).authMounts = state.authMounts := by
  unfold usersAtMut
  split <;> rfl

@[simp] theorem roles_at_mut_mounts (change : Table Role → Table Role) : (state.rolesAtMut scope change).authMounts =
    state.authMounts := by
  unfold rolesAtMut
  split <;> rfl

@[simp] theorem drop_jwt_mounts : (state.dropJwt scope).authMounts = state.authMounts := by
  unfold dropJwt
  split <;> rfl

variable (state : AuthState) (scope other : AuthScope)

variable (tokens : Table Token)

@[simp] theorem with_tokens_users : (state.withTokens tokens).usersAt other = state.usersAt other := rfl
@[simp] theorem with_tokens_roles : (state.withTokens tokens).rolesAt other = state.rolesAt other := rfl
@[simp] theorem with_tokens_jwt : (state.withTokens tokens).jwtAt other = state.jwtAt other := rfl

@[simp] theorem users_at_mut_roles (change : Table User → Table User) :
    (state.usersAtMut scope change).rolesAt other = state.rolesAt other := by
  unfold usersAtMut
  split <;> rfl

@[simp] theorem users_at_mut_jwt (change : Table User → Table User) : (state.usersAtMut scope change).jwtAt other =
    state.jwtAt other := by
  unfold usersAtMut
  split <;> rfl

@[simp] theorem roles_at_mut_users (change : Table Role → Table Role) :
    (state.rolesAtMut scope change).usersAt other = state.usersAt other := by
  unfold rolesAtMut
  split <;> rfl

@[simp] theorem roles_at_mut_jwt (change : Table Role → Table Role) : (state.rolesAtMut scope change).jwtAt other =
    state.jwtAt other := by
  unfold rolesAtMut
  split <;> rfl

@[simp] theorem jwt_at_mut_users (change : JwtMountState → JwtMountState) :
    (state.jwtAtMut scope change).usersAt other = state.usersAt other :=
  rfl
@[simp] theorem jwt_at_mut_roles (change : JwtMountState → JwtMountState) :
    (state.jwtAtMut scope change).rolesAt other = state.rolesAt other :=
  rfl

@[simp] theorem drop_jwt_users : (state.dropJwt scope).usersAt other = state.usersAt other := by
  unfold dropJwt
  split <;> rfl

@[simp] theorem drop_jwt_roles : (state.dropJwt scope).rolesAt other = state.rolesAt other := by
  unfold dropJwt
  split <;> rfl

variable (nspace : Str)

@[simp] theorem with_mounts_users (entries : Table AuthMount) : (state.withMounts nspace entries).usersAt other =
    state.usersAt other :=
  rfl
@[simp] theorem with_mounts_roles (entries : Table AuthMount) : (state.withMounts nspace entries).rolesAt other =
    state.rolesAt other :=
  rfl
@[simp] theorem with_mounts_jwt (entries : Table AuthMount) : (state.withMounts nspace entries).jwtAt other =
    state.jwtAt other :=
  rfl

variable (name : Str) (policy : Policy)

@[simp] theorem insert_policy_users : (state.insertPolicy nspace name policy).usersAt other = state.usersAt other := rfl
@[simp] theorem insert_policy_roles : (state.insertPolicy nspace name policy).rolesAt other = state.rolesAt other := rfl
@[simp] theorem insert_policy_jwt : (state.insertPolicy nspace name policy).jwtAt other = state.jwtAt other := rfl

@[simp] theorem remove_policy_users : (state.removePolicy nspace name).usersAt other = state.usersAt other := by
  unfold removePolicy
  split <;> rfl
@[simp] theorem remove_policy_roles : (state.removePolicy nspace name).rolesAt other = state.rolesAt other := by
  unfold removePolicy
  split <;> rfl
@[simp] theorem remove_policy_jwt : (state.removePolicy nspace name).jwtAt other = state.jwtAt other := by
  unfold removePolicy
  split <;> rfl

end AuthState

def rootToken (accessor : Str) (now : Nat) : Token where
  accessor := accessor
  nspace := []
  policies := ExtTreeSet.ofList [str "root"]
  root := true
  parent := none
  createdAt := now
  expiresAt := none
  maxExpiresAt := none
  period := 0
  renewable := false
  usesRemaining := none
  displayName := str "root"
  authMount := none
  authOriginKnown := true

def bootstrap (lib : Library) (draws : Draws) (now : Nat) : Except AuthError (AuthState × Str) := do
  let accessor ← randomId lib draws 0 "a."
  let raw ← randomId lib draws 1 "hvs."
  .ok (⟨(∅ : Table Token).insert (hash lib raw) (rootToken accessor now), ∅, ∅, ∅, ∅, ∅, ∅, ∅⟩, raw)

end HeptaBao.Auth
