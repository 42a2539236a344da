import HeptaBao.Auth.JwtRoute
import HeptaBao.Auth.PolicyRoute
import HeptaBao.Auth.RoleRoute

namespace HeptaBao.Auth

open Wire Std Durable Exec Action

variable (state : AuthState) (scope : AuthScope)

namespace AuthState

-- The two mounts that are older than recorded origins take the tokens without one.
def issuedAt (token : Token) : Bool :=
  token.nspace == scope.nspace && !token.root && (token.authMount == some scope.mount ||
    (!token.authOriginKnown && (scope.mount == str "userpass" || scope.mount == str "approle")))

def issuedIds : List Str :=
  (state.tokens.toList.filter fun entry => issuedAt scope entry.2).map (·.1)

def clearMount : AuthState :=
  ((state.usersAtMut scope fun _ => ∅).rolesAtMut scope fun _ => ∅).dropJwt scope

def disableAuthMount : AuthState :=
  (state.issuedIds scope).foldl revoke (state.clearMount scope)

end AuthState

def mountDescription (body : Value) : Except AuthError Str :=
  match body.get (str "description") with
  | none => .ok []
  | some value =>
    match value.asStr with
    | none => .error (bad "description must be a string")
    | some description => .ok description

def overlaps (entries : Table AuthMount) (mount : Str) : Bool :=
  entries.keys.any fun name => name != mount &&
    ((mount ++ str "/").isPrefixOf name || (name ++ str "/").isPrefixOf mount)

def enableMount (nspace mount : Str) (body : Value) : AuthAction AuthResponse := do
  lift (rejectUnknown body ["type", "description"])
  let kind ← lift (match (body.get (str "type")).bind Value.asStr with
    | some kind => .ok kind
    | none => .error (bad "auth mount type is required"))
  refuse (kind ∉ [str "userpass", str "approle", str "jwt"]) (err 501 "auth method type is not implemented")
  let description ← lift (mountDescription body)
  refuse (512 < description.length ∨ anyControl description = true) (bad "invalid auth mount description")
  let entries ← query fun state => .ok (state.effectiveAuthMounts nspace)
  refuse (mount = str "token" ∨ entries[mount]?.any (fun old => old.kind != kind) = true)
    (bad "auth mount is already in use by another method")
  refuse (overlaps entries mount = true) (bad "auth mount paths cannot overlap")
  Action.modify fun state => state.withMounts nspace (entries.insert mount ⟨kind, description⟩)
  pure (empty (decide (entries[mount]? ≠ some ⟨kind, description⟩)))

-- The mounts are written down before it is known whether this one is among them.
def disableMount (nspace mount : Str) (body : Value) : AuthAction AuthResponse := do
  lift (rejectUnknown body [])
  refuse (mount = str "token") (bad "the built-in token auth method cannot be disabled")
  let entries ← query fun state => .ok (state.effectiveAuthMounts nspace)
  Action.modify fun state => state.withMounts nspace (entries.erase mount)
  refuse (mount ∉ entries) (err 404 "auth mount not found")
  Action.modify fun state => state.disableAuthMount ⟨nspace, mount⟩
  pure (empty true)

def authMountRoute (who : Option Principal) (nspace method path : Str) (body : Value) (now : Nat) :
    AuthAction AuthResponse := do
  let suffix ← lift (match stripPrefix (str "sys/auth") path with
    | some suffix => .ok suffix
    | none => .error (bad "invalid auth mount path"))
  if suffix = [] ∨ suffix = str "/" then do
    refuse (method ∉ [str "GET", str "LIST"]) (err 405 "method not allowed")
    let _ ← query fun state => state.permission who nspace (str "sys/auth") (str "read") now
    lift (rejectUnknown body [])
    let entries ← query fun state => .ok (state.effectiveAuthMounts nspace)
    pure (response (.object (entries.toList.map fun entry => (entry.1 ++ str "/", entry.2.descriptor))) false)
  else do
    let mount := trimEndMatches 47 (trimStartMatches 47 suffix)
    refuse (mount = [] ∨ 256 < mount.length ∨ (mount.splitOn 47).all validName = false)
      (bad "auth mount path must contain canonical segments")
    let route := str "sys/auth/" ++ mount
    if method = str "GET" then do
      let _ ← query fun state => state.permission who nspace route (str "read") now
      lift (rejectUnknown body [])
      let entry ← query fun state => match (state.effectiveAuthMounts nspace)[mount]? with
        | some entry => .ok entry
        | none => .error (err 404 "auth mount not found")
      pure (response entry.descriptor false)
    else if method = str "POST" ∨ method = str "PUT" then do
      let actor ← query fun state => state.permission who nspace route (str "update") now
      query fun state => state.authorizeRequest actor nspace route (str "sudo") now
      enableMount nspace mount body
    else if method = str "DELETE" then do
      let actor ← query fun state => state.permission who nspace route (str "update") now
      query fun state => state.authorizeRequest actor nspace route (str "sudo") now
      disableMount nspace mount body
    else fail (err 405 "method not allowed")

def findMount (mounts : Table AuthMount) (authPath : Str) : Option (Str × AuthMount × Str) :=
  mounts.toList.findSome? fun entry =>
    (stripPrefix (entry.1 ++ str "/") authPath).map fun suffix => (entry.1, entry.2, suffix)

variable (lib : Library)

def mountedRoute (draws : Draws) (who : Option Principal) (nspace method path : Str) (body : Value)
    (now : Nat) (mount : Str) (kind : Str) (suffix : Str) : AuthAction AuthResponse :=
  let scope : AuthScope := ⟨nspace, mount⟩
  if kind = str "token" ∧ mount = str "token" then tokenRoute lib draws who nspace method path body now
  else if kind = str "userpass" ∧ (str "login/").isPrefixOf suffix then
    loginUserpass lib draws scope method (suffix.drop 6) body now
  else if kind = str "userpass" ∧ (suffix = str "users" ∨ (str "users/").isPrefixOf suffix) then
    userRoute lib draws who scope method path body now
  else if kind = str "approle" ∧ suffix = str "login" then loginApprole lib draws scope method body now
  else if kind = str "approle" ∧ suffix = str "tidy/secret-id" then tidySecretIds who scope method path body now
  else if kind = str "approle" ∧ (suffix = str "role" ∨ (str "role/").isPrefixOf suffix) then
    roleRoute lib draws who scope method path body now
  else if kind = str "jwt" then jwtRoute lib draws who scope method path body now
  else fail (err 404 "unsupported auth route")

def policyPath (path : Str) : Bool :=
  path == str "sys/policies/acl" || (str "sys/policies/acl/").isPrefixOf path || path == str "sys/policy" ||
    (str "sys/policy/").isPrefixOf path

def handle (draws : Draws) (who : Option Principal) (nspace method path : Str) (body : Value)
    (now : Nat) : AuthAction (Option AuthResponse) := do
  lift (validateNamespace nspace)
  lift (validatePath path false)
  if path = str "sys/auth" ∨ (str "sys/auth/").isPrefixOf path then do
    let answer ← authMountRoute who nspace method path body now
    pure (some answer)
  else match stripPrefix (str "auth/") path with
    | some authPath => do
      let found ← query fun state => match findMount (state.effectiveAuthMounts nspace) authPath with
        | some found => .ok found
        | none => .error (err 404 "auth mount not found")
      let answer ← mountedRoute lib draws who nspace method path body now found.1 found.2.1.kind found.2.2
      pure (some answer)
    | none =>
      if policyPath path then do
        let answer ← policyRoute lib who nspace method path body now
        pure (some answer)
      else pure none

-- The principal comes from authenticate and lives for one call of handle.
structure Request where
  token : Str
  nspace : Str
  method : Str
  path : Str
  body : Value
  now : Nat
  draws : Draws

def caller (req : Request) : AuthAction (Option Principal) :=
  if req.token = [] then pure none
  else do
    let who ← authenticate lib req.token req.now
    pure (some who)

def serve (req : Request) : AuthAction (Option AuthResponse) := do
  let who ← caller lib req
  handle lib req.draws who req.nspace req.method req.path req.body req.now

def step (state : AuthState) (req : Request) : AuthState := (serve lib req state).2

end HeptaBao.Auth
