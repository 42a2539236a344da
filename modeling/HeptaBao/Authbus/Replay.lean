import HeptaBao.Durable.Types
import HeptaBao.Exec.Action
import HeptaBao.Exec.Runs
import HeptaBao.Wire.Text

namespace HeptaBao.Authbus

open Exec Wire Durable Action List

def maxAssertionTtlSeconds : Nat := 30
def maxClockSkewSeconds : Nat := 5
def maxIdentityBytes : Nat := 512
def maxSignatureBytes : Nat := 16 * 1024

inductive AuthbusError where
  | invalidRequestBinding
  | invalidPolicy
  | invalidIdentity
  | invalidAssertion
  | unsupportedDigestAlgorithm
  | unsupportedAssertionVersion
  | issuerOrAudienceMismatch
  | keyNotAllowed
  | invalidLifetime
  | lifetimeTooLong
  | notYetValid
  | expired
  | requestBindingMismatch
  | invalidSignature
  | replayDetected
  | replayCacheSaturated
  | digestProviderFailure
  | signatureProviderFailure
  | clockOverflow
deriving DecidableEq

inductive DigestAlgorithm where
  | sha256
deriving DecidableEq

-- The digest provider and the signature verifier.
structure Providers where
  algorithm : DigestAlgorithm
  digest : Bytes → Except AuthbusError Bytes
  verify : Str → Bytes → Bytes → Except AuthbusError Bool

structure AuthbusAssertion where
  version : Nat
  issuer : Str
  audience : Str
  subject : Str
  keyId : Str
  issuedAt : Nat
  expiresAt : Nat
  requestDigest : Bytes
  nonce : Bytes
  signature : Bytes

structure VerificationPolicy where
  requiredIssuer : Str
  requiredAudience : Str
  maximumTtlSeconds : Nat
  maximumFutureSkewSeconds : Nat
  allowedKeyIds : List Str

structure VerifiedAuthbusIdentity where
  issuer : Str
  subject : Str
  keyId : Str
  assertionExpiresAt : Nat

def appendField (value : Bytes) : Bytes := big 8 value.length ++ value

def AuthbusAssertion.unsignedPayload (assertion : AuthbusAssertion) : Bytes :=
  [str "heptabao-authbus-assertion-v1", big 2 assertion.version, assertion.issuer, assertion.audience, assertion.subject,
    assertion.keyId, big 8 assertion.issuedAt, big 8 assertion.expiresAt, assertion.requestDigest, assertion.nonce].flatMap appendField

def validateIdentity (value : Str) : Except AuthbusError Unit :=
  if value = [] ∨ maxIdentityBytes < value.length ∨
      value.any (fun byte => 127 ≤ byte || byte < 32 || byte == 32 || byte == 92) = true then .error .invalidIdentity
  else .ok ()

def VerificationPolicy.validate (policy : VerificationPolicy) : Except AuthbusError Unit := do
  validateIdentity policy.requiredIssuer
  validateIdentity policy.requiredAudience
  if policy.maximumTtlSeconds = 0 ∨ maxAssertionTtlSeconds < policy.maximumTtlSeconds ∨
      maxClockSkewSeconds < policy.maximumFutureSkewSeconds then .error .invalidPolicy else .ok ()
  if policy.allowedKeyIds = [] then .error .invalidPolicy else .ok ()
  policy.allowedKeyIds.forM validateIdentity

def validateAssertionShape (assertion : AuthbusAssertion) : Except AuthbusError Unit := do
  validateIdentity assertion.issuer
  validateIdentity assertion.audience
  validateIdentity assertion.subject
  validateIdentity assertion.keyId
  if assertion.requestDigest = replicate 32 0 ∨ assertion.nonce = replicate 16 0 then .error .invalidAssertion else .ok ()
  if assertion.signature = [] ∨ maxSignatureBytes < assertion.signature.length then .error .invalidAssertion else .ok ()

def constantTimeEqual (left right : Bytes) : Bool :=
  (range (max left.length right.length)).foldl
    (fun difference index => difference ||| (left.getD index 0 ^^^ right.getD index 0).toNat) (left.length ^^^ right.length) == 0

-- An issuer, a nonce and the expiry recorded with them.
abbrev Observed := (Str × Bytes) × Nat

def AuthbusAssertion.observed (assertion : AuthbusAssertion) : Observed := ((assertion.issuer, assertion.nonce), assertion.expiresAt)

structure InMemoryReplayCache where
  observed : List Observed
  maxEntries : Nat

def checkAndRecord (entry : Observed) (now : Nat) : Action InMemoryReplayCache AuthbusError Unit := do
  refuse (entry.2 ≤ now) .expired
  Action.modify fun cache => { cache with observed := cache.observed.filter fun other => now < other.2 }
  let cache ← Action.read
  refuse (cache.observed.any (fun other => other.1 = entry.1) = true) .replayDetected
  refuse (cache.maxEntries ≤ cache.observed.length) .replayCacheSaturated
  Action.modify fun cache => { cache with observed := entry :: cache.observed }

-- `request` is what RequestBinding::canonical_bytes returns.
structure Call where
  assertion : AuthbusAssertion
  request : Except AuthbusError Bytes
  now : Nat

variable (policy : VerificationPolicy) (providers : Providers)

def verifyBoundAssertion (call : Call) : Action InMemoryReplayCache AuthbusError VerifiedAuthbusIdentity := do
  let assertion := call.assertion
  lift policy.validate
  lift (validateAssertionShape assertion)
  refuse (providers.algorithm ≠ .sha256) .unsupportedDigestAlgorithm
  refuse (assertion.version ≠ 1) .unsupportedAssertionVersion
  refuse (assertion.issuer ≠ policy.requiredIssuer ∨ assertion.audience ≠ policy.requiredAudience) .issuerOrAudienceMismatch
  refuse (assertion.keyId ∉ policy.allowedKeyIds) .keyNotAllowed
  refuse (assertion.expiresAt ≤ assertion.issuedAt) .invalidLifetime
  refuse (policy.maximumTtlSeconds < assertion.expiresAt - assertion.issuedAt) .lifetimeTooLong
  refuse (u64Max < call.now + policy.maximumFutureSkewSeconds) .clockOverflow
  refuse (call.now + policy.maximumFutureSkewSeconds < assertion.issuedAt) .notYetValid
  refuse (assertion.expiresAt ≤ call.now) .expired
  let canonicalRequest ← lift call.request
  let expectedDigest ← lift (providers.digest canonicalRequest)
  refuse (constantTimeEqual expectedDigest assertion.requestDigest = false) .requestBindingMismatch
  let verified ← lift (providers.verify assertion.keyId assertion.unsignedPayload assertion.signature)
  refuse (verified = false) .invalidSignature
  checkAndRecord assertion.observed call.now
  return ⟨assertion.issuer, assertion.subject, assertion.keyId, assertion.expiresAt⟩

-- What is not due stays, and a success records an entry that was not there.
def Recorded (entry : Observed) (now : Nat) (cache : InMemoryReplayCache) {α : Type} (res : Except AuthbusError α)
    (reached : InMemoryReplayCache) : Prop :=
  (∀ other ∈ cache.observed, now < other.2 → other ∈ reached.observed) ∧
    (res.isOk = true → now < entry.2 ∧ entry ∈ reached.observed ∧ entry ∉ cache.observed)

theorem refused_recorded {entry : Observed} {now : Nat} {cache : InMemoryReplayCache} {α : Type} {flaw : AuthbusError} :
    Recorded entry now cache (.error flaw : Except AuthbusError α) cache :=
  ⟨fun _ listed _ => listed, nofun⟩

theorem check_and_record_ends (entry : Observed) (now : Nat) (cache : InMemoryReplayCache) :
    Ends (checkAndRecord entry now) cache (Recorded entry now cache) := by
  unfold checkAndRecord
  refine ends_refuse (fun _ => refused_recorded) fun alive => ends_modify (ends_read _ _ _ ?_)
  have kept : ∀ other ∈ cache.observed, now < other.2 → other ∈ cache.observed.filter fun other => now < other.2 :=
    fun other listed due => mem_filter.mpr ⟨listed, decide_eq_true due⟩
  refine ends_refuse (fun _ => ⟨kept, nofun⟩) fun vacant => ?_
  refine ends_refuse (fun _ => ⟨kept, nofun⟩) fun _ => ?_
  refine ⟨fun other listed due => mem_cons_of_mem _ (kept other listed due), fun _ => ⟨Nat.not_le.mp alive, mem_cons_self, ?_⟩⟩
  intro listed
  exact vacant (any_eq_true.mpr ⟨entry, kept entry listed (Nat.not_le.mp alive), decide_eq_true rfl⟩)

theorem verify_bound_assertion_ends (call : Call) (cache : InMemoryReplayCache) :
    Ends (verifyBoundAssertion policy providers call) cache (Recorded call.assertion.observed call.now cache) := by
  unfold verifyBoundAssertion
  refine ends_lift_cases (fun _ _ => refused_recorded) fun _ _ => ?_
  refine ends_lift_cases (fun _ _ => refused_recorded) fun _ _ => ?_
  iterate 9 refine ends_refuse (fun _ => refused_recorded) fun _ => ?_
  refine ends_lift_cases (fun _ _ => refused_recorded) fun _ _ => ?_
  refine ends_lift_cases (fun _ _ => refused_recorded) fun _ _ => ?_
  refine ends_refuse (fun _ => refused_recorded) fun _ => ?_
  refine ends_lift_cases (fun _ _ => refused_recorded) fun _ _ => ?_
  refine ends_refuse (fun _ => refused_recorded) fun _ => ?_
  exact ends_bind _ (check_and_record_ends _ _ cache) (fun _ _ ended => ⟨ended.1, nofun⟩) fun _ _ ended => ended

-- The shared cache, the clock of the last call and what was accepted.
structure World where
  cache : InMemoryReplayCache
  clock : Nat
  accepted : List Observed

def World.start (maxEntries : Nat) : World := ⟨⟨[], maxEntries⟩, 0, []⟩

def World.step (world : World) (call : Call) : World :=
  match verifyBoundAssertion policy providers call world.cache with
  | (.ok _, cache) => ⟨cache, call.now, call.assertion.observed :: world.accepted⟩
  | (.error _, cache) => ⟨cache, call.now, world.accepted⟩

structure SingleUse (world : World) : Prop where
  once : world.accepted.Nodup
  spent : ∀ entry ∈ world.accepted, entry.2 ≤ world.clock ∨ entry ∈ world.cache.observed

theorem step_single_use (world : World) (call : Call) (forward : world.clock ≤ call.now) (single : SingleUse world) :
    SingleUse (world.step policy providers call) := by
  have ends := verify_bound_assertion_ends policy providers call world.cache
  unfold Ends at ends
  rw [World.step]
  generalize verifyBoundAssertion policy providers call world.cache = outcome at ends
  obtain ⟨res, cache⟩ := outcome
  have spent : ∀ entry ∈ world.accepted, entry.2 ≤ call.now ∨ entry ∈ cache.observed := by
    intro entry listed
    by_cases due : entry.2 ≤ call.now
    · exact .inl due
    · have held := (single.spent entry listed).resolve_left fun past => due (past.trans forward)
      exact .inr (ends.1 entry held (Nat.not_le.mp due))
  cases res with
  | error => exact ⟨single.once, spent⟩
  | ok =>
    obtain ⟨alive, recorded, new⟩ := ends.2 rfl
    refine ⟨nodup_cons.mpr ⟨fun listed => ?_, single.once⟩, fun entry listed => ?_⟩
    · rcases single.spent _ listed with past | held
      · exact Nat.not_le.mpr alive (past.trans forward)
      · exact new held
    · rcases mem_cons.mp listed with rfl | older
      · exact .inr recorded
      · exact spent entry older

/-- An assertion that was accepted once is not accepted again. -/
theorem assertions_single_use (maxEntries : Nat) (calls : List Call)
    (forward : Along (World.step policy providers) (fun world call => world.clock ≤ call.now) (.start maxEntries)
      calls) :
    (run (World.step policy providers) (.start maxEntries) calls).accepted.Nodup :=
  (run_invariant (step_single_use policy providers) _ ⟨nodup_nil, forall_mem_nil _⟩ forward).once

def testPolicy : VerificationPolicy := ⟨[105], [97], 30, 5, [[107]]⟩

def testProviders : Providers := ⟨.sha256, fun _ => .ok (replicate 32 1), fun _ _ _ => .ok true⟩

def testCall (nonce : UInt8) (issuedAt now : Nat) : Call :=
  ⟨⟨1, [105], [97], [115], [107], issuedAt, issuedAt + 20, replicate 32 1, replicate 16 nonce, [1]⟩, .ok [], now⟩

theorem assertions_single_use_in_turn :
    (run (World.step testPolicy testProviders) (.start 8) [testCall 1 45 50, testCall 1 45 60,
      testCall 2 100 100]).accepted.Nodup :=
  assertions_single_use _ _ 8 _ ⟨by decide, by decide +kernel, by decide +kernel, trivial⟩

-- The second call prunes the first one's entry; the clock goes back before its expiry.
theorem clock_back_replays : testPolicy.validate = .ok () ∧
    ¬(run (World.step testPolicy testProviders) (.start 8) [testCall 1 45 50, testCall 2 100 100,
      testCall 1 45 60]).accepted.Nodup := by
  decide +kernel

end HeptaBao.Authbus
