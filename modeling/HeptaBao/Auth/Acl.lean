import HeptaBao.Auth.Tokens

namespace HeptaBao.Auth

open Wire Std Durable Exec

def matchSegments (wildcard : Bool) : List Str → List Str → Bool
  | [], _ => true
  | _ :: _, [] => false
  | segment :: rest, actual :: more =>
    -- the last segment of a pattern that ended in * matches by its start
    if wildcard = true ∧ rest = [] then
      if segment = str "+" then decide (actual ≠ []) else segment.isPrefixOf actual
    else if segment = str "+" then
      if actual = [] then false else matchSegments wildcard rest more
    else if segment = actual then matchSegments wildcard rest more
    else false

def pathMatches (pattern path : Str) : Bool :=
  let front := stripSuffix (str "*") pattern
  let patternParts := (front.getD pattern).splitOn 47
  let pathParts := path.splitOn 47
  if front = none ∧ patternParts.length ≠ pathParts.length then false
  else if pathParts.length < patternParts.length then false
  else matchSegments front.isSome patternParts pathParts

def defaultGrants (path power : Str) : Bool :=
  (path == str "auth/token/lookup-self" && power == str "read") ||
  (path == str "auth/token/renew-self" && power == str "update") ||
  (path == str "auth/token/revoke-self" && power == str "update")

-- A matching rule that denies ends the search whatever was granted before.
def scanRules (path power : Str) : List Rule → Bool → Except AuthError Bool
  | [], granted => .ok granted
  | rule :: rest, granted =>
    if pathMatches rule.path path then
      if str "deny" ∈ rule.capabilities then .error denied
      else scanRules path power rest (granted || rule.capabilities.contains power)
    else scanRules path power rest granted

def scanPolicies (policies : Option (Table Policy)) (path power : Str) : List Str → Bool → Except AuthError Bool
  | [], granted => .ok granted
  | name :: rest, granted =>
    match policies.bind (·[name]?) with
    | some policy => do
      let granted ← scanRules path power policy.rules granted
      scanPolicies policies path power rest granted
    | none =>
      if name = str "default" ∧ defaultGrants path power = true then scanPolicies policies path power rest true
      else scanPolicies policies path power rest granted

variable (state : AuthState) (who : Principal) (nspace : Str)

namespace AuthState

def checkPrincipal (now : Nat) : Except AuthError Token := do
  validateNamespace nspace
  let token ← state.activeToken who.digest now false
  if token.accessor ≠ who.token.accessor ∨ (token.root = false ∧ token.nspace ≠ nspace) then .error denied
  else .ok token

def authorizeRequest (path power : Str) (now : Nat) :
    Except AuthError Unit := do
  validatePath path false
  if ¬capabilities.contains power ∨ power = str "deny" then .error denied
  else do
    let token ← state.checkPrincipal who nspace now
    if token.root then .ok ()
    else do
      let granted ← scanPolicies state.policies[nspace]? path power token.policies.toList false
      if granted then .ok () else .error denied

def permission (who : Option Principal) (nspace path power : Str) (now : Nat) :
    Except AuthError Principal :=
  match who with
  | none => .error denied
  | some actor => (state.authorizeRequest actor nspace path power now).map fun _ => actor

theorem check_principal_ok (now : Nat) (token : Token) (checked : state.checkPrincipal who nspace now = .ok token) :
    state.activeToken who.digest now false = .ok token ∧ token.accessor = who.token.accessor ∧
      (token.root = true ∨ token.nspace = nspace) := by
  unfold checkPrincipal at checked
  cases named : validateNamespace nspace with
  | error => simp [named, bind, Except.bind] at checked
  | ok =>
    cases active : state.activeToken who.digest now false with
    | error => simp [named, active, bind, Except.bind] at checked
    | ok stored =>
      simp only [named, active, bind, Except.bind] at checked
      by_cases refused : stored.accessor ≠ who.token.accessor ∨ (stored.root = false ∧ stored.nspace ≠ nspace)
      · simp [refused] at checked
      · simp only [refused, if_false, Except.ok.injEq] at checked
        subst checked
        simp only [not_or, not_and, ne_eq, not_not] at refused
        refine ⟨rfl, refused.1, ?_⟩
        cases root : stored.root with
        | true => exact .inl rfl
        | false => exact .inr (refused.2 root)

theorem authorize_request_ok (path power : Str) (now : Nat)
    (authorized : state.authorizeRequest who nspace path power now = .ok ()) :
    ∃ token, state.checkPrincipal who nspace now = .ok token := by
  unfold authorizeRequest at authorized
  cases valid : validatePath path false with
  | error => simp [valid, bind, Except.bind] at authorized
  | ok =>
    simp only [valid, bind, Except.bind] at authorized
    split at authorized
    · cases authorized
    · cases checked : state.checkPrincipal who nspace now with
      | error => simp [checked] at authorized
      | ok token => exact ⟨token, rfl⟩

theorem permission_ok (who : Option Principal) (nspace path power : Str) (now : Nat)
    (actor : Principal) (permitted : state.permission who nspace path power now = .ok actor) :
    who = some actor ∧ ∃ token, state.checkPrincipal actor nspace now = .ok token := by
  cases who with
  | none => cases permitted
  | some caller =>
    cases authorized : state.authorizeRequest caller nspace path power now with
    | error => simp [permission, authorized, Except.map] at permitted
    | ok =>
      simp only [permission, authorized, Except.map, Except.ok.injEq] at permitted
      subst permitted
      exact ⟨rfl, state.authorize_request_ok caller nspace path power now authorized⟩

end AuthState

end HeptaBao.Auth
