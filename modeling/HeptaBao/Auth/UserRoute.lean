import HeptaBao.Auth.TokenRoute

namespace HeptaBao.Auth

open Wire Std Durable Exec Action

def routeCapability (method : Str) (collection : Bool) : Except AuthError Str :=
  if method = str "GET" then .ok (if collection then str "list" else str "read")
  else if method = str "LIST" then .ok (str "list")
  else if method = str "POST" ∨ method = str "PUT" then .ok (str "update")
  else if method = str "DELETE" then .ok (str "delete")
  else .error (err 405 "method not allowed")

def validateAssignment (actor : Principal) (requested : Names) : Except AuthError Unit :=
  if str "root" ∈ requested ∨ (actor.token.root = false ∧ isSubset requested actor.token.policies = false) then .error denied
  else .ok ()

theorem validate_assignment_ok {actor : Principal} {requested : Names}
    (assigned : validateAssignment actor requested = .ok ()) :
    str "root" ∉ requested ∧ (actor.token.root = true ∨ ∀ name ∈ requested, name ∈ actor.token.policies) := by
  unfold validateAssignment at assigned
  by_cases refused : str "root" ∈ requested ∨ (actor.token.root = false ∧ isSubset requested actor.token.policies = false)
  · simp [refused] at assigned
  · simp only [not_or, not_and] at refused
    refine ⟨refused.1, ?_⟩
    cases root : actor.token.root with
    | true => exact .inl rfl
    | false => exact .inr ((is_subset_iff _ _).mp (by simpa using refused.2 root))

def base32Groups : Bytes → Nat → Nat → List Nat
  | [], buffer, bits => if 0 < bits then [(buffer <<< (5 - bits)) % 32] else []
  | byte :: rest, buffer, bits =>
    let buffer := (buffer <<< 8 ||| byte.toNat) % 2 ^ 32
    let bits := bits + 8
    if 10 ≤ bits then ((buffer >>> (bits - 5)) % 32) :: ((buffer >>> (bits - 10)) % 32) :: base32Groups rest buffer (bits - 10)
    else ((buffer >>> (bits - 5)) % 32) :: base32Groups rest buffer (bits - 5)

def base32NoPadding (bytes : Bytes) : Str :=
  (base32Groups bytes 0 0).map fun group => (str "ABCDEFGHIJKLMNOPQRSTUVWXYZ234567").getD group 65

def decimalDigits (value : Nat) : Nat → Bytes
  | 0 => []
  | count + 1 => decimalDigits (value / 10) count ++ [UInt8.ofNat (48 + value % 10)]

variable (lib : Library) (secret : Bytes)

def totpCode (counter : Nat) : Bytes :=
  let tag := (lib.hmac secret (big 8 counter)).bytes
  let offset := (tag.getD 31 0).toNat % 16
  let binary := ((tag.getD offset 0).toNat % 128) * 2 ^ 24 + (tag.getD (offset + 1) 0).toNat * 2 ^ 16 +
    (tag.getD (offset + 2) 0).toNat * 2 ^ 8 + (tag.getD (offset + 3) 0).toNat
  decimalDigits (binary % 1000000) mfaDigits

def counterMatches (enrollment : TotpEnrollment) (supplied : Str) (counter : Nat) : Bool :=
  lib.hmac enrollment.secret supplied == lib.hmac enrollment.secret (totpCode lib enrollment.secret counter)

def acceptedCounters (enrollment : TotpEnrollment) (supplied : Str) (now : Nat) : List Nat :=
  let current := now / enrollment.periodSeconds
  let start := current - mfaDriftSteps
  let last := min (current + mfaDriftSteps) u64Max
  (List.range' start (last + 1 - start)).filter fun counter =>
    !enrollment.lastAcceptedCounter.any (counter ≤ ·) && counterMatches lib enrollment supplied counter

def verifyTotp (enrollment : TotpEnrollment) (supplied : Str) (now : Nat) : Except AuthError Nat :=
  if enrollment.secret.length ≠ mfaSeedBytes ∨ enrollment.periodSeconds ≠ mfaPeriodSeconds ∨ enrollment.digits ≠ mfaDigits ∨
      supplied.length ≠ mfaDigits ∨ supplied.all asciiDigit = false then .error denied
  else match (acceptedCounters lib enrollment supplied now).max? with
    | some counter => .ok counter
    | none => .error denied

def userKeys (users : Option (Table User)) : List Str := (users.map (·.keys)).getD []

def mfaStatus (enrollment : TotpEnrollment) : Value := .object [
  (str "enabled", .bool true),
  (str "type", .string (str "totp")),
  (str "algorithm", .string (str "SHA256")),
  (str "digits", .ofNat enrollment.digits),
  (str "period", .ofNat enrollment.periodSeconds),
  (str "last_counter_present", .bool enrollment.lastAcceptedCounter.isSome)]

def mfaSecret : Value := .object [
  (str "enabled", .bool true),
  (str "type", .string (str "totp")),
  (str "algorithm", .string (str "SHA256")),
  (str "digits", .ofNat mfaDigits),
  (str "period", .ofNat mfaPeriodSeconds),
  (str "secret_base32", .string (base32NoPadding secret))]

def userInfo (user : User) : Value := .object [
  (str "policies", .ofStrings user.policies.toList),
  (str "token_policies", .ofStrings user.policies.toList),
  (str "token_ttl", .ofNat user.tokenTtl),
  (str "token_max_ttl", .ofNat user.tokenMaxTtl),
  (str "token_num_uses", .ofNat user.tokenNumUses)]

def newUser : User where
  salt := []
  verifier := []
  rounds := passwordRounds
  policies := ExtTreeSet.ofList [str "default"]
  tokenTtl := defaultTtl
  tokenMaxTtl := maxTtl
  tokenNumUses := 0
  mfa := none

def User.withMfa (user : User) (mfa : Option TotpEnrollment) : User := { user with mfa := mfa }

def freshEnrollment : TotpEnrollment where
  secret := secret
  periodSeconds := mfaPeriodSeconds
  digits := mfaDigits
  lastAcceptedCounter := none

def TotpEnrollment.accept (enrollment : TotpEnrollment) (counter : Nat) : TotpEnrollment :=
  { enrollment with lastAcceptedCounter := some counter }

variable (state : AuthState) (scope : AuthScope) (name : Str)

namespace AuthState

def user : Option User := (state.usersAt scope).bind (·[name]?)

def insertUser (user : User) : AuthState :=
  state.usersAtMut scope (·.insert name user)

def removeUser : AuthState := state.usersAtMut scope (·.erase name)

end AuthState

variable (draws : Draws)

def userMfaRoute (actor : Principal) (scope : AuthScope) (path power name : Str) (user : User)
    (body : Value) (now : Nat) : AuthAction AuthResponse :=
  if power = str "read" then do
    lift (rejectUnknown body [])
    let enrollment ← lift (match user.mfa with
      | some enrollment => .ok enrollment
      | none => .error (err 404 "MFA enrollment not found"))
    pure (response (mfaStatus enrollment) false)
  else if power = str "delete" then do
    lift (rejectUnknown body [])
    query fun state => state.authorizeRequest actor scope.nspace path (str "sudo") now
    Action.modify fun state => state.insertUser scope name (user.withMfa none)
    pure (empty user.mfa.isSome)
  else if power = str "update" then do
    lift (rejectUnknown body ["regenerate"])
    query fun state => state.authorizeRequest actor scope.nspace path (str "sudo") now
    let regenerate ← lift (boolean body "regenerate" false)
    refuse (user.mfa.isSome = true ∧ regenerate = false)
      (bad "MFA is already enrolled; explicit regenerate=true is required")
    let secret ← lift (drawBytes draws 0)
    Action.modify fun state => state.insertUser scope name (user.withMfa (some (freshEnrollment secret)))
    pure (response (mfaSecret secret) true)
  else fail (err 405 "method not allowed")

def derivePassword (user : User) (password : Str) : Except AuthError User := do
  if password.length < 12 ∨ 1024 < password.length then .error (bad "password must be 12 to 1024 bytes")
  else do
    let salt ← drawBytes draws 0
    .ok { user with
      salt := salt
      verifier := lib.pbkdf2 passwordRounds salt password 32
      rounds := passwordRounds }

def userPassword (existing : Option User) (body : Value) : Except AuthError User :=
  match body.get (str "password") with
  | some value =>
    match value.asStr with
    | none => .error (bad "password must be a string")
    | some password => derivePassword lib draws (existing.getD newUser) password
  | none =>
    match existing with
    | none => .error (bad "password is required for new user")
    | some user => .ok user

def updatedUser (actor : Principal) (existing : Option User) (body : Value) :
    Except AuthError User := do
  let user ← userPassword lib draws existing body
  rejectAliasPair body "policies" "token_policies"
  rejectAliasPair body "ttl" "token_ttl"
  rejectAliasPair body "max_ttl" "token_max_ttl"
  let names ← policies body (aliased body "token_policies" "policies") user.policies true
  validateAssignment actor names
  let ttl ← duration body (aliased body "token_ttl" "ttl") user.tokenTtl
  let maximum ← duration body (aliased body "token_max_ttl" "max_ttl") user.tokenMaxTtl
  let normal ← normalizeTtl ttl maximum
  let uses ← number body "token_num_uses" user.tokenNumUses
  .ok { user with policies := names, tokenTtl := normal.1, tokenMaxTtl := normal.2, tokenNumUses := uses }

def userRoute (who : Option Principal) (scope : AuthScope) (method path : Str)
    (body : Value) (now : Nat) : AuthAction AuthResponse := do
  let rest ← lift (match stripPrefix (str "auth/" ++ scope.mount ++ str "/users") path with
    | some rest => .ok rest
    | none => .error (bad "invalid user route"))
  let suffix := trimStartMatches 47 rest
  let parts := (splitOnce 47 suffix).getD (suffix, [])
  let name := parts.1
  let subpath := parts.2
  let power ← lift (routeCapability method suffix.isEmpty)
  let actor ← query fun state => state.permission who scope.nspace path power now
  if name = [] ∧ power = str "list" then do
    let keys ← query fun state => .ok (userKeys (state.usersAt scope))
    pure (response (.object [(str "keys", .ofStrings keys)]) false)
  else do
    refuse (validName name = false ∨ subpath ∉ [[], str "password", str "policies", str "mfa"]) (bad "invalid user route")
    let existing ← query fun state => .ok (state.user scope name)
    if subpath = str "mfa" then do
      let user ← lift (match existing with
        | some user => .ok user
        | none => .error (err 404 "user not found"))
      userMfaRoute draws actor scope path power name user body now
    else if power = str "read" ∧ subpath = [] then do
      let user ← lift (match existing with
        | some user => .ok user
        | none => .error (err 404 "user not found"))
      pure (response (userInfo user) false)
    else if power = str "delete" ∧ subpath = [] then do
      Action.modify fun state => state.removeUser scope name
      pure (empty true)
    else do
      refuse (power ≠ str "update") (err 405 "method not allowed")
      lift (rejectUnknown body ["password", "policies", "token_policies", "ttl", "max_ttl", "token_ttl", "token_max_ttl",
        "token_num_uses"])
      refuse (subpath = str "password" ∧ (body.asObject.all (fun members => members.length != 1) = true ∨
        (body.get (str "password")).isNone = true)) (bad "password endpoint accepts only password")
      refuse (subpath = str "policies" ∧ body.asObject.any (fun members => members.any fun member =>
        member.1 != str "policies" && member.1 != str "token_policies") = true) (bad "policies endpoint accepts only policy fields")
      let user ← lift (updatedUser lib draws actor existing body)
      Action.modify fun state => state.insertUser scope name user
      pure (empty true)

def loginToken (scope : AuthScope) (names : Names) (ttl maximum uses : Nat)
    (displayName : Str) (now : Nat) : Except AuthError Token := do
  if str "root" ∈ names then .error denied
  else do
    let accessor ← randomId lib draws 0 "a."
    let expiresAt ← checkedExpiry now ttl
    let maxExpiresAt ← checkedExpiry now maximum
    .ok {
      accessor := accessor
      nspace := scope.nspace
      policies := names
      root := false
      parent := none
      createdAt := now
      expiresAt := some expiresAt
      maxExpiresAt := some maxExpiresAt
      period := 0
      renewable := true
      usesRemaining := unlimitedZero uses
      displayName := displayName
      authMount := some scope.mount
      authOriginKnown := true }

def passwordVerifies (rounds : Nat) (salt verifier : Bytes) (password : Str) : Bool :=
  verifier ≠ [] && lib.pbkdf2 rounds salt password verifier.length == verifier

def verifiedUser (existing : Option User) (password : Str) : Except AuthError User :=
  let rounds := (existing.map User.rounds).getD passwordRounds
  let salt := (existing.map User.salt).getD (List.replicate 32 0)
  let verifier := (existing.map User.verifier).getD (List.replicate 32 0)
  if rounds = 0 then .error denied
  else match existing with
    | none => .error denied
    | some user => if passwordVerifies lib rounds salt verifier password then .ok user else .error denied

def acceptedCounter (user : User) (body : Value) (now : Nat) : Except AuthError (Option Nat) :=
  match user.mfa with
  | some enrollment =>
    match (body.get (str "totp_code")).bind Value.asStr with
    | none => .error denied
    | some code => (verifyTotp lib enrollment code now).map some
  | none => if (body.get (str "totp_code")).isSome then .error (bad "MFA is not configured for this user") else .ok none

def User.accept (user : User) (counter : Option Nat) : User :=
  match counter with
  | none => user
  | some counter => user.withMfa (user.mfa.map (·.accept counter))

def loginUserpass (scope : AuthScope) (method name : Str) (body : Value) (now : Nat) :
    AuthAction AuthResponse := do
  refuse (method ∉ [str "POST", str "PUT"]) (err 405 "method not allowed")
  refuse (validName name = false) denied
  lift (rejectUnknown body ["password", "totp_code"])
  let password ← lift (stringField body "password")
  refuse (1024 < password.length) denied
  let existing ← query fun state => .ok (state.user scope name)
  let user ← lift (verifiedUser lib existing password)
  let counter ← lift (acceptedCounter lib user body now)
  let token ← lift (loginToken lib draws scope user.policies user.tokenTtl user.tokenMaxTtl user.tokenNumUses
    (str "userpass-" ++ name) now)
  let prepared ← lift (prepareIssue lib draws token now)
  Action.modify fun state => (state.insertUser scope name (user.accept counter)).insertToken prepared.1 token
  pure prepared.2

end HeptaBao.Auth
