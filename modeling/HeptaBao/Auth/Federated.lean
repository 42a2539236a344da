import HeptaBao.Auth.State

namespace HeptaBao.Auth

open Wire Std Durable

-- The caller is told one refusal for every error of the verifier.
def checkedString (value : Str) : Option Str :=
  if value = [] ∨ 1024 < value.length ∨ 0 ∈ value ∨ anyControl value = true then none else some value

structure VerificationKey where
  keyId : Str
  algorithm : JwtAlgorithm
  bytes : Bytes

def VerificationKey.new (keyId : Str) (algorithm : JwtAlgorithm) (bytes : Bytes) : Option VerificationKey := do
  let keyId ← checkedString keyId
  let valid : Bool := match algorithm with
    | .ed25519 => bytes.length == 32
    | .es256 => bytes.length == 65 && bytes.head? == some 4
  if valid = false ∨ 16 * 1024 < bytes.length then none else some ⟨keyId, algorithm, bytes⟩

structure TrustPolicy where
  issuer : Str
  audiences : Names
  requiredNamespace : Option Str
  clockSkewSeconds : Nat
  maximumTokenLifetimeSeconds : Nat

def TrustPolicy.new (issuer : Str) (audiences : Names) (requiredNamespace : Option Str)
    (clockSkew maximumLifetime : Nat) :
    Option TrustPolicy := do
  let issuer ← checkedString issuer
  if audiences.size = 0 ∨ 64 < audiences.size ∨ audiences.toList.any (fun audience => (checkedString audience).isNone) = true ∨
      300 < clockSkew ∨ maximumLifetime < 1 ∨ 86400 < maximumLifetime then none
  else match requiredNamespace with
    | none => some ⟨issuer, audiences, none, clockSkew, maximumLifetime⟩
    | some required => (checkedString required).map fun required => ⟨issuer, audiences, some required, clockSkew, maximumLifetime⟩

structure JwtVerifier where
  policy : TrustPolicy
  keys : List VerificationKey

def headerName : JwtAlgorithm → Str
  | .ed25519 => str "EdDSA"
  | .es256 => str "ES256"

def jwtAlgorithm (name : Str) : Option JwtAlgorithm :=
  if name = str "EdDSA" then some .ed25519 else if name = str "ES256" then some .es256 else none

def verificationKeys : List (Str × JwtKeyRecord) → Except AuthError (List VerificationKey)
  | [] => .ok []
  | (keyId, record) :: rest =>
    match jwtAlgorithm record.algorithm with
    | none => .error (bad "unsupported JWT algorithm")
    | some algorithm =>
      match VerificationKey.new keyId algorithm record.bytes with
      | none => .error (bad "invalid JWT verification key")
      | some key => (verificationKeys rest).map (key :: ·)

def JwtConfig.verifier (config : JwtConfig) : Except AuthError JwtVerifier := do
  let policy ← match TrustPolicy.new config.issuer config.audiences (config.requiredNamespace.filter (· ≠ []))
      config.clockSkewSeconds config.maximumTokenLifetimeSeconds with
    | some policy => .ok policy
    | none => .error (bad "invalid JWT trust policy")
  let keys ← verificationKeys config.keys.toList
  if keys.isEmpty then .error (bad "invalid JWT verifier configuration") else .ok ⟨policy, keys⟩

structure VerifiedPrincipal where
  issuer : Str
  subject : Str
  audiences : Names
  nspace : Option Str
  groups : Names
  tokenId : Str
  issuedAt : Nat
  expiresAt : Nat

variable (lib : Library)

def replayFingerprint (verified : VerifiedPrincipal) : Bytes :=
  (lib.sha256 ((verified.issuer ++ [0]) ++ ((verified.subject ++ [0]) ++ ((verified.nspace.getD [] ++ [0]) ++ (verified.tokenId ++ [0]))))).bytes

abbrev Members := List (Bytes × Value)

def parseUniqueObject (text : Bytes) : Option Members :=
  match lib.readJson text with
  | some (.object members) => if (members.map (·.1)).Nodup then some members else none
  | _ => none

def member (members : Members) (name : String) : Option Value := (Value.object members).get (str name)

def takeString (members : Members) (name : String) : Option Str :=
  match member members name with
  | some (.string value) => checkedString value
  | _ => none

def takeOptionalString (members : Members) (name : String) : Option (Option Str) :=
  match member members name with
  | some (.string value) => (checkedString value).map some
  | some .null => some none
  | none => some none
  | _ => none

def takeU64 (members : Members) (name : String) : Option Nat := (member members name).bind Value.asU64

def takeOptionalU64 (members : Members) (name : String) : Option (Option Nat) :=
  match member members name with
  | some .null => some none
  | none => some none
  | some value => value.asU64.map some

def checkedStrings : List Value → Option (List Str)
  | [] => some []
  | value :: rest => do
    let text ← value.asStr
    let checked ← checkedString text
    let others ← checkedStrings rest
    some (checked :: others)

def takeAudiences (members : Members) : Option Names :=
  match member members "aud" with
  | some (.string value) => (checkedString value).map fun audience => ExtTreeSet.ofList [audience]
  | some (.array values) => do
    let audiences := ExtTreeSet.ofList (← checkedStrings values)
    if audiences.size = 0 ∨ 64 < audiences.size then none else some audiences
  | _ => none

def takeStringSet (members : Members) (name : String) : Option Names :=
  match member members name with
  | none => some ∅
  | some .null => some ∅
  | some (.array values) => do
    let names := ExtTreeSet.ofList (← checkedStrings values)
    if 512 < names.size then none else some names
  | _ => none

structure Assertion where
  header : Members
  claims : Members
  signingInput : Bytes
  signature : Bytes

def readAssertion (token : Str) : Option Assertion :=
  if token = [] ∨ 32 * 1024 < token.length ∨ token.any (fun byte => 128 ≤ byte) = true then none
  else match token.splitOn 46 with
    | [encodedHeader, encodedClaims, encodedSignature] => do
      if encodedHeader = [] ∨ encodedClaims = [] ∨ encodedSignature = [] then none
      else do
        let headerBytes ← lib.decodeBase64 encodedHeader
        let claimsBytes ← lib.decodeBase64 encodedClaims
        let signature ← lib.decodeBase64 encodedSignature
        if 12 * 1024 < headerBytes.length ∨ 12 * 1024 < claimsBytes.length then none
        else do
          let header ← parseUniqueObject lib headerBytes
          let claims ← parseUniqueObject lib claimsBytes
          some ⟨header, claims, encodedHeader ++ 46 :: encodedClaims, signature⟩
    | _ => none

def signatureValid (keys : List VerificationKey) (assertion : Assertion) : Bool :=
  ((do
    let algorithmName ← takeString assertion.header "alg"
    let keyId ← takeString assertion.header "kid"
    let typ ← takeOptionalString assertion.header "typ"
    let key ← keys.find? (·.keyId == keyId)
    some (typ.all (· == str "JWT") && assertion.header.all (fun entry => ["alg", "kid", "typ"].any (str · == entry.1)) &&
      algorithmName == headerName key.algorithm &&
      lib.verifySignature key.algorithm key.bytes assertion.signingInput assertion.signature)) : Option Bool).getD false

structure AssertedClaims where
  verified : VerifiedPrincipal
  notBefore : Nat

def readClaims (claims : Members) : Option AssertedClaims := do
  let issuer ← takeString claims "iss"
  let subject ← takeString claims "sub"
  let audiences ← takeAudiences claims
  let expiresAt ← takeU64 claims "exp"
  let issuedAt ← takeU64 claims "iat"
  let notBefore ← takeOptionalU64 claims "nbf"
  let tokenId ← takeString claims "jti"
  let nspace ← takeOptionalString claims "heptabao_namespace"
  let groups ← takeStringSet claims "groups"
  some ⟨⟨issuer, subject, audiences, nspace, groups, tokenId, issuedAt, expiresAt⟩, notBefore.getD issuedAt⟩

def TrustPolicy.accepts (policy : TrustPolicy) (claims : AssertedClaims) (now : Nat) : Bool :=
  let verified := claims.verified
  let reach := min (now + policy.clockSkewSeconds) u64Max
  verified.issuer == policy.issuer && !isDisjoint verified.audiences policy.audiences &&
    policy.requiredNamespace.all (fun required => verified.nspace == some required) &&
    decide (claims.notBefore ≤ reach) && decide (verified.issuedAt ≤ reach) && decide (now < verified.expiresAt) &&
    decide (verified.issuedAt < verified.expiresAt) && decide (claims.notBefore < verified.expiresAt) &&
    decide (verified.expiresAt - verified.issuedAt ≤ policy.maximumTokenLifetimeSeconds)

-- What an assertion claims is read from its text alone.
def assertedClaims (token : Str) : Option AssertedClaims :=
  (readAssertion lib token).bind fun assertion => readClaims assertion.claims

def JwtVerifier.verify (verifier : JwtVerifier) (token : Str) (now : Nat) : Option VerifiedPrincipal := do
  let assertion ← readAssertion lib token
  if signatureValid lib verifier.keys assertion = false then none
  else do
    let claims ← readClaims assertion.claims
    if verifier.policy.accepts claims now then some claims.verified else none

theorem verify_claims {lib : Library} {verifier : JwtVerifier} {token : Str} {now : Nat} {verified : VerifiedPrincipal}
    (accepted : verifier.verify lib token now = some verified) :
    (assertedClaims lib token).map AssertedClaims.verified = some verified ∧ now < verified.expiresAt := by
  unfold JwtVerifier.verify at accepted
  cases read : readAssertion lib token with
  | none => simp [read] at accepted
  | some assertion =>
    simp only [read, Option.bind_eq_bind, Option.bind_some] at accepted
    split at accepted
    · cases accepted
    · cases claimed : readClaims assertion.claims with
      | none => simp [claimed] at accepted
      | some claims =>
        simp only [claimed, Option.bind_some] at accepted
        by_cases passes : verifier.policy.accepts claims now = true
        · simp only [passes, if_true, Option.some.injEq] at accepted
          subst accepted
          refine ⟨by simp [assertedClaims, read, claimed], ?_⟩
          simp only [TrustPolicy.accepts, Bool.and_eq_true, decide_eq_true_eq] at passes
          exact passes.1.1.1.2
        · simp [passes] at accepted

end HeptaBao.Auth
