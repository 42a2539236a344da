import HeptaBao.Auth.Handle

namespace HeptaBao.Auth

open Wire Std Durable Exec

-- What the pure parts of the routes promise about the records they make.
variable (lib : Library) (draws : Draws) (actor : Principal) (body : Value)

theorem user_password_mfa (existing : Option User) (user : User)
    (made : userPassword lib draws existing body = .ok user) :
    user.mfa = (existing.getD newUser).mfa := by
  unfold userPassword at made
  split at made
  · split at made
    · cases made
    · unfold derivePassword at made
      split at made
      · cases made
      · obtain ⟨_, _, made⟩ := bind_ok made
        cases made
        rfl
  · split at made
    · cases made
    · cases made
      rfl

variable {lib draws actor body} in
theorem updated_user_ok {existing : Option User} {user : User}
    (made : updatedUser lib draws actor existing body = .ok user) :
    validateAssignment actor user.policies = .ok () ∧ user.tokenTtl ≤ user.tokenMaxTtl ∧
      user.mfa = (existing.getD newUser).mfa := by
  obtain ⟨base, password, made⟩ := bind_ok made
  obtain ⟨_, made⟩ := unit_bind_ok made
  obtain ⟨_, made⟩ := unit_bind_ok made
  obtain ⟨_, made⟩ := unit_bind_ok made
  obtain ⟨_, _, made⟩ := bind_ok made
  obtain ⟨assigned, made⟩ := unit_bind_ok made
  obtain ⟨_, _, made⟩ := bind_ok made
  obtain ⟨_, _, made⟩ := bind_ok made
  obtain ⟨⟨_, _⟩, normal, made⟩ := bind_ok made
  obtain ⟨_, _, made⟩ := bind_ok made
  cases made
  exact ⟨assigned, (normalize_ttl_ok normal).1, user_password_mfa lib draws body existing base password⟩

variable {lib draws actor body} in
theorem updated_role_ok {existing : Option Role} {role : Role}
    (made : updatedRole lib draws actor existing body = .ok role) :
    validateAssignment actor role.policies = .ok () ∧ role.tokenTtl ≤ role.tokenMaxTtl ∧
      role.secretIds = (existing.map Role.secretIds).getD ∅ := by
  obtain ⟨_, _, made⟩ := bind_ok made
  split at made
  · cases made
  · obtain ⟨_, made⟩ := unit_bind_ok made
    obtain ⟨_, _, made⟩ := bind_ok made
    obtain ⟨_, _, made⟩ := bind_ok made
    obtain ⟨assigned, made⟩ := unit_bind_ok made
    obtain ⟨_, _, made⟩ := bind_ok made
    obtain ⟨_, _, made⟩ := bind_ok made
    obtain ⟨⟨_, _⟩, normal, made⟩ := bind_ok made
    obtain ⟨_, _, made⟩ := bind_ok made
    obtain ⟨_, _, made⟩ := bind_ok made
    split at made
    · cases made
    · obtain ⟨_, _, made⟩ := bind_ok made
      cases made
      refine ⟨assigned, (normalize_ttl_ok normal).1, ?_⟩
      cases existing <;> rfl

variable {now : Nat}

theorem spent_role_ok {old role : Role} {secretId : Str} (spent : spentRole lib old secretId now = .ok role) :
    ∃ secret, old.secretIds[hash lib secretId]? = some secret ∧ secret.exhausted = false ∧
      role = old.withSecretIds (old.secretIds.insert (hash lib secretId) secret.spend) := by
  unfold spentRole at spent
  split at spent
  · cases spent
  · rename_i secret stored
    split at spent
    · cases spent
    · rename_i accepted
      exact ⟨secret, stored, by simpa using fun drained => accepted (.inr drained), (Except.ok.inj spent).symm⟩

theorem read_jwt_role_ok (role : JwtRole) (made : readJwtRole actor body = .ok role) :
    validateAssignment actor role.policies = .ok () := by
  obtain ⟨_, made⟩ := unit_bind_ok made
  obtain ⟨_, _, made⟩ := bind_ok made
  obtain ⟨_, _, made⟩ := bind_ok made
  obtain ⟨_, _, made⟩ := bind_ok made
  obtain ⟨_, made⟩ := unit_bind_ok made
  obtain ⟨_, _, made⟩ := bind_ok made
  obtain ⟨assigned, made⟩ := unit_bind_ok made
  obtain ⟨_, _, made⟩ := bind_ok made
  obtain ⟨_, _, made⟩ := bind_ok made
  obtain ⟨_, _, made⟩ := bind_ok made
  split at made
  · cases made
  · cases made
    exact assigned

structure LoggedIn (lib : Library) (draws : Draws) (scope : AuthScope) (names : Names) (uses : Nat) (now : Nat)
    (token : Token) : Prop where
  plain : str "root" ∉ token.policies
  policies : token.policies = names
  nspaced : token.nspace = scope.nspace
  root : token.root = false
  orphan : token.parent = none
  mounted : token.authMount = some scope.mount
  known : token.authOriginKnown = true
  created : token.createdAt = now
  budget : token.usesRemaining = unlimitedZero uses
  accessor : randomId lib draws 0 "a." = .ok token.accessor

variable {scope : AuthScope} {token : Token}

theorem login_token_ok {names : Names} {ttl maximum uses : Nat} {name : Str}
    (made : loginToken lib draws scope names ttl maximum uses name now = .ok token) :
    LoggedIn lib draws scope names uses now token ∧ token.expiresAt = some (now + ttl) ∧
      token.maxExpiresAt = some (now + maximum) := by
  unfold loginToken at made
  split at made
  · cases made
  · rename_i plain
    obtain ⟨accessor, drawn, made⟩ := bind_ok made
    obtain ⟨expiresAt, expiry, made⟩ := bind_ok made
    obtain ⟨maxExpiresAt, limit, made⟩ := bind_ok made
    cases made
    rw [checked_expiry_ok expiry, checked_expiry_ok limit]
    exact ⟨⟨plain, rfl, rfl, rfl, rfl, rfl, rfl, rfl, rfl, drawn⟩, rfl, rfl⟩

variable {verified : VerifiedPrincipal}

theorem jwt_token_ok {role : JwtRole}
    (bound : roleRefuses role scope.nspace verified = false)
    (made : jwtToken lib draws scope role verified now = .ok token) :
    LoggedIn lib draws scope role.policies role.tokenNumUses now token ∧
      ∃ expiry limit, token.expiresAt = some expiry ∧ token.maxExpiresAt = some limit ∧ expiry ≤ limit ∧
        limit ≤ verified.expiresAt := by
  simp only [jwtToken] at made
  split at made
  · cases made
  · rename_i remaining
    obtain ⟨accessor, drawn, made⟩ := bind_ok made
    obtain ⟨expiresAt, expiry, made⟩ := bind_ok made
    obtain ⟨maxExpiresAt, limit, made⟩ := bind_ok made
    cases made
    have plain : str "root" ∉ role.policies := by
      intro member
      have listed : role.policies.contains (str "root") = true := member
      simp only [roleRefuses, listed, Bool.or_true] at bound
      cases bound
    refine ⟨⟨plain, rfl, rfl, rfl, rfl, rfl, rfl, rfl, rfl, drawn⟩, expiresAt, maxExpiresAt, rfl, rfl, ?_, ?_⟩
    · rw [checked_expiry_ok expiry, checked_expiry_ok limit]
      omega
    · rw [checked_expiry_ok limit]
      omega

theorem verify_jwt_claims {config : JwtConfig} {jwt : Str} (verifies : verifyJwt lib config jwt now = .ok verified) :
    (assertedClaims lib jwt).map AssertedClaims.verified = some verified ∧ now < verified.expiresAt := by
  obtain ⟨verifier, _, verifies⟩ := bind_ok verifies
  split at verifies
  · rename_i other accepted
    cases verifies
    exact verify_claims accepted
  · cases verifies

theorem renewal_ok {limit : Option Nat} {increment expiresAt : Nat}
    (granted : renewal token limit increment now = .ok expiresAt) :
    now < expiresAt ∧ (∀ maximum, token.maxExpiresAt = some maximum → expiresAt ≤ maximum) ∧
      ∀ above, limit = some above → expiresAt ≤ above := by
  unfold renewal at granted
  split at granted
  · cases granted
  · obtain ⟨proposed, _, granted⟩ := bind_ok granted
    dsimp only at granted
    split at granted
    · cases granted
    · rename_i later
      cases granted
      refine ⟨by omega, ?_, ?_⟩
      · intro maximum same
        cases limit <;> simp [same]
      · intro above same
        simp [same]

end HeptaBao.Auth
