import HeptaBao.Contracts.Domain
import HeptaBao.Exec.Action

namespace HeptaBao.Plugin

open Wire Std Durable Domain Exec Action

def maxLeaseTtl : Nat := 366 * 24 * 60 * 60

inductive PluginOperation where
  | read
  | write
  | issue
  | renew
  | revoke
deriving DecidableEq

def PluginOperation.tag : PluginOperation → UInt8
  | read => 1
  | write => 2
  | issue => 3
  | renew => 4
  | revoke => 5

def PluginOperation.asStr : PluginOperation → Str
  | read => str "read"
  | write => str "write"
  | issue => str "issue"
  | renew => str "renew"
  | revoke => str "revoke"

structure PluginManifest where
  operations : List PluginOperation
  maximumRequestBytes : Nat
  maximumResponseBytes : Nat
  environmentAllowlist : List Str

abbrev SecretEnvironment := List (Str × Str)

inductive SandboxFailure where
  | beforeEntry
  | outcomeUnknownAfterEntry
deriving DecidableEq

-- What the installed runner does during one call of the broker.
structure SandboxRunner where
  admits : PluginManifest → Except SandboxFailure Unit
  invoke : PluginManifest → PluginOperation → SecretValue → SecretEnvironment → Except SandboxFailure SecretValue

inductive PluginHostState where
  | active
  | reconciliationRequired
  | revoked
deriving DecidableEq

inductive PluginHostError where
  | domain (flaw : DomainError)
  | sandboxUnavailable
  | capabilityDenied
  | requestTooLarge
  | responseTooLarge
  | environmentDenied
  | processBeforeEntry
  | processOutcomeUnknown
  | reconciliationRequired
  | invalidReconciliation
  | pluginRevoked
  | invalidLeaseTtl
  | duplicateLease
  | missingLease
  | leaseNotRenewable
  | leaseNotActive
  | pendingPluginInvocation
  | corruptDurablePluginState
  | durable (flaw : ServiceError)
  | generationOverflow
deriving DecidableEq

inductive DynamicLeaseState where
  | active
  | revoked
  | expired
  | reconciliationRequired
deriving DecidableEq

structure DynamicLeaseSpec where
  leaseId : Id
  ownerEntity : Id
  scope : CanonicalPath
  issuedAt : Tick
  ttl : UInt64
  renewable : Bool

structure DynamicLeaseView where
  leaseId : Id
  ownerEntity : Id
  scope : CanonicalPath
  state : DynamicLeaseState
  issuedAt : Tick
  expiresAt : Tick
  renewable : Bool
  generation : UInt64
  secretDigest : Digest
deriving DecidableEq

structure DynamicSecretIssue where
  lease : DynamicLeaseView
  secret : SecretValue

structure Entered where
  operation : PluginOperation
  request : SecretValue

-- `entered` is for the proofs: entries into the runner not looked at yet.
structure DynamicSecretBroker where
  manifest : PluginManifest
  state : PluginHostState
  leases : ExtTreeMap Id DynamicLeaseView
  entered : List Entered

abbrev BrokerAction := Action DynamicSecretBroker PluginHostError

def inDomain {α : Type} (res : Except DomainError α) : Except PluginHostError α := res.mapError .domain

variable (broker : DynamicSecretBroker) (leaseId : Id)

namespace DynamicSecretBroker

def fenced : DynamicSecretBroker := { broker with state := .reconciliationRequired }

def enters (op : PluginOperation) (req : SecretValue) : DynamicSecretBroker :=
  { broker with entered := broker.entered ++ [⟨op, req⟩] }

def withLease (view : DynamicLeaseView) : DynamicSecretBroker :=
  { broker with leases := broker.leases.insert view.leaseId view }

-- if let Some(record) = leases.get_mut(id) { state = ReconciliationRequired }
def doubtLease : DynamicSecretBroker :=
  match broker.leases[leaseId]? with
  | none => broker
  | some view => { broker with leases := broker.leases.insert leaseId { view with state := .reconciliationRequired } }

end DynamicSecretBroker

open DynamicSecretBroker

def invoke (runner : SandboxRunner) (op : PluginOperation) (req : SecretValue) (environment : SecretEnvironment) :
    BrokerAction SecretValue := do
  let broker ← Action.read
  refuse (broker.state = .reconciliationRequired) .reconciliationRequired
  refuse (broker.state = .revoked) .pluginRevoked
  refuse (op ∉ broker.manifest.operations) .capabilityDenied
  refuse (broker.manifest.maximumRequestBytes < req.bytes.length) .requestTooLarge
  refuse (environment.any (fun entry => entry.1 ∉ broker.manifest.environmentAllowlist) = true) .environmentDenied
  Action.modify (enters · op req)
  match runner.invoke broker.manifest op req environment with
  | .ok response =>
    if response.bytes.length ≤ broker.manifest.maximumResponseBytes then pure response
    else do
      Action.modify fenced
      fail .responseTooLarge
  | .error .beforeEntry => fail .processBeforeEntry
  | .error .outcomeUnknownAfterEntry => do
    Action.modify fenced
    fail .processOutcomeUnknown

def bindDynamicRequest (action : Str) (leaseId : Id) (gen : UInt64) (req : SecretValue) :
    Except PluginHostError SecretValue :=
  if 2 ^ 16 ≤ action.length ∨ 2 ^ 16 ≤ leaseId.text.length ∨ 2 ^ 32 ≤ req.bytes.length then .error .requestTooLarge
  else inDomain (SecretValue.new (big 2 action.length ++ (action ++ (big 2 leaseId.text.length ++ (leaseId.text ++
    (big 8 gen.toNat ++ (big 4 req.bytes.length ++ req.bytes)))))))

namespace DynamicSecretBroker

def issue (env : Env) (runner : SandboxRunner) (spec : DynamicLeaseSpec) (req : SecretValue)
    (environment : SecretEnvironment) :
    BrokerAction DynamicSecretIssue := do
  let broker ← Action.read
  refuse (spec.ttl = 0 ∨ maxLeaseTtl < spec.ttl.toNat) .invalidLeaseTtl
  refuse (broker.leases.contains spec.leaseId = true) .duplicateLease
  let expiresAt ← lift (inDomain (spec.issuedAt.checkedAdd spec.ttl))
  let bound ← lift (bindDynamicRequest (str "issue") spec.leaseId 1 req)
  let secret ← invoke runner .issue bound environment
  let view : DynamicLeaseView := ⟨spec.leaseId, spec.ownerEntity, spec.scope, .active, spec.issuedAt, expiresAt, spec.renewable, 1,
    env.sha256 secret.bytes⟩
  Action.modify (withLease · view)
  return ⟨view, secret⟩

-- A lease past its end is marked even where the generation cannot grow.
def view (now : Tick) : BrokerAction DynamicLeaseView := do
  let broker ← Action.read
  match broker.leases[leaseId]? with
  | none => fail .missingLease
  | some current =>
    if current.state = .active ∧ current.expiresAt ≤ now then
      match nextGeneration current.generation with
      | none => do
        Action.modify fun broker => { broker with leases := broker.leases.insert leaseId { current with state := .expired } }
        fail .generationOverflow
      | some gen => do
        let expired := { current with state := .expired, generation := gen }
        Action.modify fun broker => { broker with leases := broker.leases.insert leaseId expired }
        return expired
    else return current

-- A response changes the lease, and an uncertain outcome leaves it in doubt.
def conclude (res : Except PluginHostError SecretValue)
    (change : SecretValue → Except PluginHostError (DynamicLeaseView → DynamicLeaseView)) : BrokerAction DynamicLeaseView := do
  let broker ← Action.read
  match res with
  | .ok response => do
    let apply ← lift (change response)
    match broker.leases[leaseId]? with
    | none => fail .missingLease
    | some current => do
      Action.modify fun broker => { broker with leases := broker.leases.insert leaseId (apply current) }
      return apply current
  | .error flaw =>
    if broker.state = .reconciliationRequired then do
      Action.modify (doubtLease · leaseId)
      fail flaw
    else fail flaw

def renew (env : Env) (runner : SandboxRunner) (leaseId : Id) (now : Tick) (ttl : UInt64) (req : SecretValue)
    (environment : SecretEnvironment) : BrokerAction DynamicLeaseView := do
  refuse (ttl = 0 ∨ maxLeaseTtl < ttl.toNat) .invalidLeaseTtl
  let current ← view leaseId now
  refuse (current.state ≠ .active ∨ current.renewable = false) .leaseNotRenewable
  match nextGeneration current.generation with
  | none => fail .generationOverflow
  | some gen => do
    let bound ← lift (bindDynamicRequest (str "renew") leaseId gen req)
    let res ← attempt (invoke runner .renew bound environment)
    conclude leaseId res fun response => do
      let expiresAt ← inDomain (now.checkedAdd ttl)
      return fun record => { record with
        expiresAt := expiresAt
        generation := gen
        secretDigest := env.sha256 response.bytes }

def revoke (runner : SandboxRunner) (leaseId : Id) (req : SecretValue) (environment : SecretEnvironment) :
    BrokerAction DynamicLeaseView := do
  let broker ← Action.read
  match broker.leases[leaseId]? with
  | none => fail .missingLease
  | some current =>
    if current.state ≠ .active then fail .leaseNotActive
    else match nextGeneration current.generation with
      | none => fail .generationOverflow
      | some gen => do
        let bound ← lift (bindDynamicRequest (str "revoke") leaseId gen req)
        let res ← attempt (invoke runner .revoke bound environment)
        conclude leaseId res fun _ => .ok fun record => { record with state := .revoked, generation := gen }

end DynamicSecretBroker

end HeptaBao.Plugin
