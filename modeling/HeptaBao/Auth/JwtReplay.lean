import HeptaBao.Auth.Holdings
import HeptaBao.Auth.Requests
import HeptaBao.Auth.StandIn
import HeptaBao.Exec.Runs

namespace HeptaBao.Auth

open Wire Std Durable Exec

-- Spent: the mount's clock is past the end, or a record of it lasts as long.
def Spent (key : Str) (expiry : Nat) (mount : JwtMountState) : Prop :=
  expiry ≤ mount.lastAdmissionTime ∨ ∃ recorded, mount.replay[key]? = some recorded ∧ expiry ≤ recorded

def SpentAt (state : AuthState) (scope : AuthScope) (key : Str) (expiry : Nat) : Prop :=
  Spent key expiry ((state.jwtAt scope).getD .default)

variable (mount : JwtMountState)

theorem admitted_replay (key other : Str) (expiresAt now : Nat) : (mount.admitted key expiresAt now).replay[other]? =
      if key = other then some expiresAt else (mount.replay[other]?).filter fun expiry => decide (now < expiry) := by
  unfold JwtMountState.admitted
  rw [lookup_insert, ExtTreeMap.getElem?_filter']

theorem admission_spends (key : Str) (expiresAt now : Nat) : Spent key expiresAt (mount.admitted key expiresAt now) :=
  .inr ⟨expiresAt, by rw [admitted_replay, if_pos rfl], Nat.le_refl _⟩

theorem admission_keeps_spent {mount : JwtMountState} {key : Str} (other : Str) {expiry : Nat} (expiresAt : Nat)
    {now : Nat}
    (current : mount.lastAdmissionTime ≤ now) (unseen : ¬mount.replay[other]?.any (now < ·) = true)
    (spent : Spent key expiry mount) :
    Spent key expiry (mount.admitted other expiresAt now) := by
  rcases spent with past | ⟨recorded, stored, lasts⟩
  · exact .inl (past.trans current)
  · by_cases live : now < recorded
    · have different : other ≠ key := by
        rintro rfl
        exact unseen (by simp [stored, live])
      refine .inr ⟨recorded, ?_, lasts⟩
      rw [admitted_replay, if_neg different, stored]
      simp [live]
    · exact .inl (show expiry ≤ now by omega)

section

variable (lib : Library) (draws : Draws) (who : Option Principal) (nspace path : Str) (now : Nat) (state : AuthState)

theorem spent_at_unchanged {after : AuthState} {scope : AuthScope} {key : Str} {expiry : Nat}
    (same : after.jwtAt scope = state.jwtAt scope) (spent : SpentAt state scope key expiry) :
      SpentAt after scope key expiry := by
  unfold SpentAt at spent ⊢
  rw [same]
  exact spent

theorem spent_at_changed {scope other : AuthScope} {change : JwtMountState → JwtMountState} {key : Str} {expiry : Nat}
    (keeps : scope = other → Spent key expiry ((state.jwtAt scope).getD .default) →
      Spent key expiry (change ((state.jwtAt scope).getD .default)))
    (spent : SpentAt state scope key expiry) : SpentAt (state.jwtAtMut other change) scope key expiry := by
  unfold SpentAt at spent ⊢
  rw [AuthState.jwt_at_mut_read]
  by_cases same : other = scope
  · subst same
    rw [if_pos rfl]
    exact keeps rfl spent
  · rw [if_neg same]
    exact spent

theorem change_keeps_spent (after : AuthState) (change : Change lib draws who nspace path now state after)
    (scope : AuthScope)
    (enabled : ¬(scope.mount ∈ state.effectiveAuthMounts scope.nspace ∧
      scope.mount ∉ after.effectiveAuthMounts scope.nspace))
    (key : Str) (expiry : Nat) (spent : SpentAt state scope key expiry) : SpentAt after scope key expiry := by
  have unchanged := fun same => @spent_at_unchanged state after scope key expiry same spent
  cases change with
  | same => exact spent
  | mountEnabled | mountMissing | policyWritten | tokenCreated | tidied | revoked | renewed => exact unchanged rfl
  | mountDisabled _ _ _ _ present =>
    apply unchanged
    rw [AuthState.disable_jwt, if_neg, AuthState.with_mounts_jwt]
    rintro rfl
    refine enabled ⟨present, ?_⟩
    simp [AuthState.effectiveAuthMounts, AuthState.disable_mounts, AuthState.withMounts]
  | policyRemoved | rolesTidied => exact unchanged (by simp)
  | userWritten => exact unchanged (by simp [AuthState.insertUser])
  | userRemoved => exact unchanged (by simp [AuthState.removeUser])
  | userLogin =>
    exact unchanged (by simp [AuthState.insertUser, AuthState.insertToken])
  | roleWritten => exact unchanged (by simp [AuthState.insertRole])
  | roleRemoved => exact unchanged (by simp [AuthState.removeRole])
  | roleLogin =>
    exact unchanged (by simp [AuthState.insertRole, AuthState.insertToken])
  | jwtConfigured | jwtRoleRemoved | jwtTouched => exact spent_at_changed state (fun _ kept => kept) spent
  | jwtRoleWritten =>
    exact spent_at_changed state (fun _ kept => kept) spent
  | jwtLogin _ _ _ _ _ verified _ _ login =>
    refine spent_at_changed state (fun same kept => ?_) spent
    subst same
    exact admission_keeps_spent _ verified.expiresAt login.current login.unseen kept

end

variable (lib : Library)

def Disables (scope : AuthScope) (state : AuthState) (req : Request) : Prop :=
  scope.mount ∈ state.effectiveAuthMounts scope.nspace ∧ scope.mount ∉ (step lib state req).effectiveAuthMounts scope.nspace

theorem step_keeps_spent {lib : Library} {scope : AuthScope} {key : Str} {expiry : Nat} {state : AuthState}
    {req : Request}
    (enabled : ¬Disables lib scope state req) (spent : SpentAt state scope key expiry) :
      SpentAt (step lib state req) scope key expiry := by
  rcases serve_ends lib state req with ⟨_, same⟩ | ⟨who, admitted, entered, _, change⟩
  · rw [same]
    exact spent
  · refine change_keeps_spent lib _ who _ _ _ admitted _ change scope ?_ key expiry ?_
    · rw [admitted_mounts entered]
      exact enabled
    · refine spent_at_unchanged state ?_ spent
      cases entered <;> rfl

def Exchanges (state : AuthState) (req : Request) (scope : AuthScope) (jwt : Str) : Prop :=
  loginOf state req = some (scope, .jwt) ∧ stringField req.body "jwt" = .ok jwt ∧
    ∃ answer, (serve lib req state).1 = .ok answer

-- Two texts that assert the same issuer, subject, namespace, identity and end.
def SameAssertion (jwt again : Str) : Prop :=
  ∀ first second, (assertedClaims lib jwt).map AssertedClaims.verified = some first →
    (assertedClaims lib again).map AssertedClaims.verified = some second →
    first.issuer = second.issuer ∧ first.subject = second.subject ∧ first.nspace = second.nspace ∧
      first.tokenId = second.tokenId ∧ first.expiresAt = second.expiresAt

theorem exchange_ok {lib : Library} {state : AuthState} {req : Request} {scope : AuthScope} {jwt : Str}
    (exchanged : Exchanges lib state req scope jwt) :
      ∃ verified, (assertedClaims lib jwt).map AssertedClaims.verified = some verified ∧
      ¬SpentAt state scope (lib.encodeBase64 (replayFingerprint lib verified)) verified.expiresAt ∧
      SpentAt (step lib state req) scope (lib.encodeBase64 (replayFingerprint lib verified)) verified.expiresAt := by
  obtain ⟨asked, presented, answer, served⟩ := exchanged
  obtain ⟨who, admitted, roleName, text, config, role, verified, raw, token, entered, _, read, login, reached⟩ := jwt_served asked served
  rw [presented] at read
  cases read
  obtain ⟨claimed, live⟩ := verify_jwt_claims lib login.verifies
  have mounts : admitted.jwtAt scope = state.jwtAt scope := by cases entered <;> rfl
  refine ⟨verified, claimed, ?_, ?_⟩
  · have current := login.current
    have unseen := login.unseen
    rw [mounts] at current unseen
    rintro (past | ⟨recorded, stored, lasts⟩)
    · omega
    · have later : req.now < recorded := by omega
      exact unseen (by simp [stored, later])
  · rw [reached]
    unfold SpentAt afterJwtLogin
    rw [show ∀ other : AuthState, (other.insertToken (hash lib raw) token).jwtAt scope = other.jwtAt scope from fun _ => rfl,
      AuthState.jwt_at_mut_read, if_pos rfl]
    exact admission_spends _ _ verified.expiresAt req.now

/-- Until its mount is disabled no assertion is exchanged twice, whatever the clocks say. -/
theorem jwt_exchanged_once (lib : Library) (scope : AuthScope) (jwt again : Str) (alike : SameAssertion lib jwt again)
    (state : AuthState) (first : Request) (between : List Request) (second : Request)
    (exchanged : Exchanges lib state first scope jwt)
    (enabled : Along (step lib) (fun reached req => ¬Disables lib scope reached req) (step lib state first) between) :
    ¬Exchanges lib (run (step lib) state (first :: between)) second scope again := by
  intro repeated
  obtain ⟨verified, claimed, _, spent⟩ := exchange_ok exchanged
  obtain ⟨other, claimedAgain, unspent, _⟩ := exchange_ok repeated
  obtain ⟨issuer, subject, nspace, tokenId, expiresAt⟩ := alike verified other claimed claimedAgain
  have fingerprint : replayFingerprint lib verified = replayFingerprint lib other := by
    unfold replayFingerprint
    rw [issuer, subject, nspace, tokenId]
  rw [← fingerprint, ← expiresAt] at unspent
  exact unspent (@run_invariant _ _ (step lib) _ (SpentAt · scope _ verified.expiresAt)
    (fun _ _ => step_keeps_spent) _ between spent enabled)

theorem same_assertion_refl (jwt : Str) : SameAssertion lib jwt jwt := by
  intro first second claimed claimedAgain
  rw [claimed] at claimedAgain
  cases claimedAgain
  exact ⟨rfl, rfl, rfl, rfl, rfl⟩

-- An assertion with its Ed25519 signature under the key below.
def sampleHeader : Str := str "eyJhbGciOiJFZERTQSIsImtpZCI6ImsifQ"

def sampleClaims : Str := str "eyJpc3MiOiJpIiwic3ViIjoicyIsImF1ZCI6ImEiLCJleHAiOjIwMDAsImlhdCI6OTAwLCJqdGkiOiIxIn0"

def sampleSigned : Str := str "s045ZDfI0Uj7zdY8guSpseVsvIt709my_tDj_uSwCRj3BQ-9lX2_loqdv6TblSv86RAL4x_oB7BlNPEoL7N-CQ"

def sampleJwt : Str := sampleHeader ++ 46 :: sampleClaims ++ 46 :: sampleSigned

def sampleSignature : Bytes := [
  179, 78, 57, 100, 55, 200, 209, 72, 251, 205, 214, 60, 130, 228, 169, 177, 229, 108, 188, 139, 123, 211, 217, 178, 254, 208, 227, 254,
  228, 176, 9, 24, 247, 5, 15, 189, 149, 125, 191, 150, 138, 157, 191, 164, 219, 149, 43, 252, 233, 16, 11, 227, 31, 232, 7, 176, 101,
  52, 241, 40, 47, 179, 126, 9]

def sampleKey : Bytes := [
  215, 90, 152, 1, 130, 177, 10, 183, 213, 75, 254, 211, 201, 100, 7, 58, 14, 225, 114, 243, 218, 166, 35, 37, 175, 2, 26, 104, 247, 7,
  81, 26]

def headerText : Bytes := str "\x7b\"alg\":\"EdDSA\",\"kid\":\"k\"\x7d"

def claimsText : Bytes :=
  str "\x7b\"iss\":\"i\",\"sub\":\"s\",\"aud\":\"a\",\"exp\":2000,\"iat\":900,\"jti\":\"1\"\x7d"

def jwtLibrary : Library := standIn {
  passwords := []
  encoded := [(sampleHeader, headerText), (sampleClaims, claimsText), (sampleSigned, sampleSignature)]
  texts := [
    (headerText, .object [(str "alg", .string (str "EdDSA")), (str "kid", .string (str "k"))]),
    (claimsText, .object [(str "iss", .string (str "i")), (str "sub", .string (str "s")), (str "aud", .string (str "a")),
      (str "exp", .ofNat 2000), (str "iat", .ofNat 900), (str "jti", .string (str "1"))])]
  signatures := [(sampleHeader ++ 46 :: sampleClaims, sampleSignature)] }

def sampleScope : AuthScope := ⟨[], str "jwt"⟩

def sampleJwtMount : JwtMountState where
  config := some ⟨str "i", ExtTreeSet.ofList [str "a"], none, 30, 3600, (∅ : Table JwtKeyRecord).insert (str "k") ⟨str "EdDSA", sampleKey⟩⟩
  roles := (∅ : Table JwtRole).insert (str "dev") ⟨∅, none, ∅, ExtTreeSet.ofList [str "default"], 300, 600, 0⟩
  identities := ∅
  replay := ∅
  lastAdmissionTime := 0

def jwtSampleState : AuthState :=
  { stateWith 7 (serviceToken ["root"]) "" [] with
    authMounts := (∅ : Table (Table AuthMount)).insert [] (legacyAuthMounts.insert (str "jwt") (AuthMount.new "jwt" ""))
    jwtMounts := (∅ : Table (Table JwtMountState)).insert [] ((∅ : Table JwtMountState).insert (str "jwt") sampleJwtMount) }

def jwtLoginAt (now : Nat) (draws : Draws) : Request :=
  { requestBy 0 "POST" "auth/jwt/login" [("role", .string (str "dev")), ("jwt", .string sampleJwt)] now draws with token := [] }

def jwtRoleWrite : Request :=
  requestBy 7 "POST" "auth/jwt/role/dev" [("token_ttl", .ofNat 60), ("token_max_ttl", .ofNat 120)] 1500 (drawn 3 4)

-- The same text again after the role was rewritten, with the clock set back.
theorem sample_exchanged_once : Exchanges jwtLibrary jwtSampleState (jwtLoginAt 1000 (drawn 1 2)) sampleScope
    sampleJwt ∧
    ¬Exchanges jwtLibrary (run (step jwtLibrary) jwtSampleState [jwtLoginAt 1000 (drawn 1 2), jwtRoleWrite])
      (jwtLoginAt 950 (drawn 5 6)) sampleScope sampleJwt := by
  have exchanged : Exchanges jwtLibrary jwtSampleState (jwtLoginAt 1000 (drawn 1 2)) sampleScope sampleJwt :=
    ⟨by decide +kernel, by decide +kernel, answered _ (by decide +kernel)⟩
  refine ⟨exchanged, ?_⟩
  refine jwt_exchanged_once jwtLibrary sampleScope sampleJwt sampleJwt (same_assertion_refl _ _) jwtSampleState
    (jwtLoginAt 1000 (drawn 1 2)) [jwtRoleWrite] (jwtLoginAt 950 (drawn 5 6)) exchanged ⟨?_, trivial⟩
  unfold Disables
  decide +kernel

end HeptaBao.Auth
