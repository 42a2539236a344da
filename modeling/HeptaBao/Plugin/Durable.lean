import HeptaBao.Plugin.Codec
import HeptaBao.Plugin.Store

namespace HeptaBao.Plugin

open Wire Std Durable Domain Exec Action

def durableNamespace : Str := str "plugin-runtime"
def leasePrefix : Str := str "leases"
def intentPrefix : Str := str "intents"

-- PluginMutationContext::new refuses the zero digest.
structure PluginMutationContext where
  principal : Id
  requestId : Id
  authorizationDigest : Digest
  authorized : authorizationDigest ≠ zeroDigest

inductive DurableReconciliationDecision where
  | provenNoEffect
  | completed (lease : DynamicLeaseView) (responseDigest : Digest)

-- The store while the runner was running, for the proofs.
structure Moment where
  entry : Entered
  store : Store

-- `fates`: what becomes of the durable writes, in order; one beyond them commits.
structure Machine where
  store : Store
  broker : DynamicSecretBroker
  pending : Option DurablePluginIntent
  fates : List Fate
  moments : List Moment

abbrev PluginAction := Action Machine PluginHostError

def inFolder (folder : Str) (id : Id) : Str := folder ++ (47 :: id.text)

def leaseResource (leaseId : Id) : Str := inFolder leasePrefix leaseId

def intentResource (leaseId : Id) : Str := inFolder intentPrefix leaseId

def leaseKey (leaseId : Id) : StorageKey := ⟨durableNamespace, leaseResource leaseId⟩

def intentKey (leaseId : Id) : StorageKey := ⟨durableNamespace, intentResource leaseId⟩

def storageRequestId (ctx : PluginMutationContext) (phase : Str) (intent : DurablePluginIntent) : Str :=
  ctx.requestId.text ++ (58 :: (phase ++ (58 :: (intent.operation.asStr ++ (58 :: decimal intent.generation.toNat)))))

def storageRequestKey (ctx : PluginMutationContext) (phase : Str) (intent : DurablePluginIntent) : RequestKey :=
  ⟨ctx.principal.text, durableNamespace, storageRequestId ctx phase intent⟩

def boundRequestDigest (env : Env) (op : PluginOperation) (req : SecretValue) : Digest :=
  env.sha256 (op.tag :: (big 8 req.bytes.length ++ req.bytes))

def Secret.new (bytes : Bytes) : Except ServiceError Secret :=
  if nonempty : bytes = [] then .error .invalidSecret
  else if bounded : bytes.length ≤ maxSecretBytes then .ok ⟨bytes, nonempty, bounded⟩
  else .error .invalidSecret

def inService {α : Type} (res : Except ServiceError α) : Except PluginHostError α := res.mapError .durable

-- Runs an action of the broker and notes what the store held meanwhile.
def onBroker {α : Type} (action : BrokerAction α) : PluginAction α := fun m =>
  let outcome := action m.broker
  (outcome.1, { m with
    broker := { outcome.2 with entered := [] }
    moments := m.moments ++ outcome.2.entered.map fun entry => ⟨entry, m.store⟩ })

-- One durable mutation; require_committed takes a duplicate for a commit.
def submit (env : Env) (cap : Nat) (req : Request) : PluginAction Unit := do
  lift (inService req.validate)
  fun m =>
    let outcome := m.store.execute env cap req (m.fates.headD (.committed []))
    ((inService outcome.1).map fun _ => (), { m with store := outcome.2, fates := m.fates.tail })

section

variable (env : Env) (cap : Nat) (ctx : PluginMutationContext)

def putRequest (phase resource : Str) (intent : DurablePluginIntent) (value : Secret) : Request :=
  .put ⟨ctx.principal.text, durableNamespace, storageRequestId ctx phase intent, resource, ctx.authorizationDigest, value⟩

def deleteRequest (phase resource : Str) (intent : DurablePluginIntent) : Request :=
  .delete ⟨ctx.principal.text, durableNamespace, storageRequestId ctx phase intent, resource, ctx.authorizationDigest⟩

def publishIntent (intent : DurablePluginIntent) : PluginAction Unit := do
  let bytes ← lift (encodeIntent intent)
  let value ← lift (inService (Secret.new bytes))
  submit env cap (putRequest ctx (str "intent") (intentResource intent.leaseId) intent value)
  Action.modify fun m => { m with pending := some intent }

def publishLease (view : DynamicLeaseView) (intent : DurablePluginIntent) : PluginAction Unit := do
  let bytes ← lift (encodeLease view)
  let value ← lift (inService (Secret.new bytes))
  submit env cap (putRequest ctx (str "lease") (leaseResource view.leaseId) intent value)

def deleteLease (intent : DurablePluginIntent) : PluginAction Unit :=
  submit env cap (deleteRequest ctx (str "drop-lease") (leaseResource intent.leaseId) intent)

def clearIntent (intent : DurablePluginIntent) : PluginAction Unit :=
  submit env cap (deleteRequest ctx (str "clear") (intentResource intent.leaseId) intent)

end

def Machine.fence (leaseId : Id) (m : Machine) : Machine := { m with broker := (m.broker.fenced).doubtLease leaseId }

def ensureReady : PluginAction Unit := do
  let m ← Action.read
  refuse (m.pending.isSome = true) .pendingPluginInvocation
  match m.broker.state with
  | .active => return ()
  | .reconciliationRequired => fail .reconciliationRequired
  | .revoked => fail .pluginRevoked

-- Runs an action; where it fails, the lease is fenced first.
def orFence (leaseId : Id) (action : PluginAction Unit) : PluginAction Unit := do
  let res ← attempt action
  match res with
  | .ok _ => return ()
  | .error flaw => do
    Action.modify (Machine.fence leaseId)
    fail flaw

section

variable (env : Env) (cap : Nat) (ctx : PluginMutationContext) (runner : SandboxRunner)

def clearAfterBeforeEntry {α : Type} (intent : DurablePluginIntent) (original : PluginHostError) : PluginAction α := do
  orFence intent.leaseId (clearIntent env cap ctx intent)
  Action.modify fun m => { m with pending := none }
  fail original

-- What issue, renew and revoke do once the intent is published.
def carryOut {α : Type} (intent : DurablePluginIntent) (effect : BrokerAction α) (lease : α → DynamicLeaseView) : PluginAction α := do
  let res ← attempt (onBroker effect)
  match res with
  | .ok value => do
    orFence intent.leaseId (publishLease env cap ctx (lease value) intent)
    orFence intent.leaseId (clearIntent env cap ctx intent)
    Action.modify fun m => { m with pending := none }
    return value
  | .error .processBeforeEntry => clearAfterBeforeEntry env cap ctx intent .processBeforeEntry
  | .error flaw => do
    let m ← Action.read
    if m.broker.state = .reconciliationRequired then do
      Action.modify (Machine.fence intent.leaseId)
      fail flaw
    else fail flaw

def issueIntent (spec : DynamicLeaseSpec) (proposedExpiresAt : Tick) (req : SecretValue) : DurablePluginIntent :=
  ⟨spec.leaseId, .issue, 1, spec.ownerEntity, spec.scope, spec.issuedAt, proposedExpiresAt, spec.renewable, none, boundRequestDigest env .issue req⟩

def nextIntent (op : PluginOperation) (prev : DynamicLeaseView) (leaseId : Id) (gen : UInt64) (proposedExpiresAt : Tick)
    (req : SecretValue) : DurablePluginIntent :=
  ⟨leaseId, op, gen, prev.ownerEntity, prev.scope, prev.issuedAt, proposedExpiresAt, prev.renewable, some prev, boundRequestDigest env op req⟩

def issue (spec : DynamicLeaseSpec) (req : SecretValue) (environment : SecretEnvironment) : PluginAction DynamicSecretIssue := do
  ensureReady
  let m ← Action.read
  if spec.ttl = 0 ∨ maxLeaseTtl < spec.ttl.toNat ∨ m.broker.leases.contains spec.leaseId = true then
    onBroker (DynamicSecretBroker.issue env runner spec req environment)
  else do
    let proposedExpiresAt ← lift (inDomain (spec.issuedAt.checkedAdd spec.ttl))
    let intent := issueIntent env spec proposedExpiresAt req
    publishIntent env cap ctx intent
    carryOut env cap ctx intent (DynamicSecretBroker.issue env runner spec req environment) DynamicSecretIssue.lease

def renew (leaseId : Id) (now : Tick) (ttl : UInt64) (req : SecretValue) (environment : SecretEnvironment) :
    PluginAction DynamicLeaseView := do
  ensureReady
  let prev ← onBroker (DynamicSecretBroker.view leaseId now)
  if ttl = 0 ∨ maxLeaseTtl < ttl.toNat ∨ prev.state ≠ .active ∨ prev.renewable = false then
    onBroker (DynamicSecretBroker.renew env runner leaseId now ttl req environment)
  else match nextGeneration prev.generation with
    | none => fail .generationOverflow
    | some gen => do
      let proposedExpiresAt ← lift (inDomain (now.checkedAdd ttl))
      let intent := nextIntent env .renew prev leaseId gen proposedExpiresAt req
      publishIntent env cap ctx intent
      carryOut env cap ctx intent (DynamicSecretBroker.renew env runner leaseId now ttl req environment) id

def revoke (leaseId : Id) (req : SecretValue) (environment : SecretEnvironment) : PluginAction DynamicLeaseView := do
  ensureReady
  let m ← Action.read
  match m.broker.leases[leaseId]? with
  | none => fail .missingLease
  | some prev =>
    if prev.state ≠ .active then onBroker (DynamicSecretBroker.revoke runner leaseId req environment)
    else match nextGeneration prev.generation with
      | none => fail .generationOverflow
      | some gen => do
        let intent := nextIntent env .revoke prev leaseId gen prev.expiresAt req
        publishIntent env cap ctx intent
        carryOut env cap ctx intent (DynamicSecretBroker.revoke runner leaseId req environment) id

def validateCompletedResolution (intent : DurablePluginIntent) (lease : DynamicLeaseView) (responseDigest : Digest) :
    Except PluginHostError Unit :=
  if responseDigest = zeroDigest ∨ lease.leaseId ≠ intent.leaseId ∨ lease.ownerEntity ≠ intent.ownerEntity ∨
      lease.scope ≠ intent.scope ∨ lease.issuedAt ≠ intent.issuedAt ∨ lease.expiresAt ≠ intent.proposedExpiresAt ∨
      lease.renewable ≠ intent.renewable ∨ lease.generation ≠ intent.generation then .error .invalidReconciliation
  else match intent.operation with
    | .issue | .renew =>
      if lease.state ≠ .active ∨ lease.secretDigest ≠ responseDigest then .error .invalidReconciliation else .ok ()
    | .revoke =>
      if lease.state ≠ .revoked ∨ intent.previous.all (fun prev => prev.secretDigest ≠ lease.secretDigest) = true then
        .error .invalidReconciliation
      else .ok ()
    | .read | .write => .error .invalidReconciliation

def resolution (intent : DurablePluginIntent) : DurableReconciliationDecision →
    Except PluginHostError (Option DynamicLeaseView)
  | .provenNoEffect => .ok intent.previous
  | .completed lease responseDigest => do
    validateCompletedResolution intent lease responseDigest
    return some lease

def admitted (res : Except SandboxFailure Unit) : Except PluginHostError Unit := res.mapError fun _ => .sandboxUnavailable

def resolveLease (leaseId : Id) (resolved : Option DynamicLeaseView) (broker : DynamicSecretBroker) :
    DynamicSecretBroker :=
  match resolved with
  | some view => broker.withLease view
  | none => { broker with leases := broker.leases.erase leaseId }

def reconcile (decision : DurableReconciliationDecision) : PluginAction (Option DynamicLeaseView) := do
  let m ← Action.read
  match m.pending with
  | none => fail .invalidReconciliation
  | some intent => do
    lift (admitted (runner.admits m.broker.manifest))
    let resolved ← lift (resolution intent decision)
    match resolved with
    | some view => publishLease env cap ctx view intent
    | none => deleteLease env cap ctx intent
    clearIntent env cap ctx intent
    Action.modify fun m => { m with
      broker := { resolveLease intent.leaseId resolved m.broker with state := .active }
      pending := none }
    return resolved

end

def loadLeases (store : Store) : List Str → ExtTreeMap Id DynamicLeaseView →
    Except PluginHostError (ExtTreeMap Id DynamicLeaseView)
  | [], leases => .ok leases
  | child :: rest, leases => do
    check (child.getLast? ≠ some 47)
    let leaseId ← inDomain (Id.parse child)
    let value ← inService (store.get durableNamespace (leaseResource leaseId))
    match value with
    | none => corrupt
    | some bytes => do
      let view ← decodeLease bytes
      check (view.leaseId = leaseId && view.state ≠ .reconciliationRequired && !leases.contains view.leaseId)
      loadLeases store rest (leases.insert view.leaseId view)

def loadIntents (store : Store) : List Str → Option DurablePluginIntent →
    Except PluginHostError (Option DurablePluginIntent)
  | [], pending => .ok pending
  | child :: rest, pending => do
    check (child.getLast? ≠ some 47 && pending.isNone)
    let leaseId ← inDomain (Id.parse child)
    let value ← inService (store.get durableNamespace (intentResource leaseId))
    match value with
    | none => corrupt
    | some bytes => do
      let intent ← decodeIntent bytes
      check (intent.leaseId = leaseId)
      loadIntents store rest (some intent)

structure Live where
  broker : DynamicSecretBroker
  pending : Option DurablePluginIntent

def freshBroker (manifest : PluginManifest) : DynamicSecretBroker := ⟨manifest, .active, ∅, []⟩

-- A broker that was just admitted takes over what was stored.
def takeOver (manifest : PluginManifest) (leases : ExtTreeMap Id DynamicLeaseView) : Option DurablePluginIntent → Live
  | none => ⟨{ freshBroker manifest with leases := leases }, none⟩
  | some intent =>
    ⟨({ freshBroker manifest with leases := leases } : DynamicSecretBroker).fenced.doubtLease intent.leaseId, some intent⟩

def reopen (manifest : PluginManifest) (store : Store) : Except PluginHostError Live := do
  let leaseNames ← inService (store.list durableNamespace leasePrefix)
  let leases ← loadLeases store leaseNames ∅
  let intentNames ← inService (store.list durableNamespace intentPrefix)
  let pending ← loadIntents store intentNames none
  return takeOver manifest leases pending

-- The directory, the process that has it open, and every entry into the runner.
structure World where
  store : Store
  live : Option Live
  moments : List Moment

inductive Call where
  | issue (spec : DynamicLeaseSpec) (req : SecretValue) (environment : SecretEnvironment)
  | renew (leaseId : Id) (now : Tick) (ttl : UInt64) (req : SecretValue) (environment : SecretEnvironment)
  | revoke (leaseId : Id) (req : SecretValue) (environment : SecretEnvironment)
  | reconcile (decision : DurableReconciliationDecision)

inductive Event where
  | call (ctx : PluginMutationContext) (call : Call) (runner : SandboxRunner) (fates : List Fate)
  | view (leaseId : Id) (now : Tick)
  | crash
  | reopen

def perform (env : Env) (cap : Nat) (ctx : PluginMutationContext) (runner : SandboxRunner) : Call → PluginAction Unit
  | .issue spec req environment => do
    let _ ← issue env cap ctx runner spec req environment
    return ()
  | .renew leaseId now ttl req environment => do
    let _ ← renew env cap ctx runner leaseId now ttl req environment
    return ()
  | .revoke leaseId req environment => do
    let _ ← revoke env cap ctx runner leaseId req environment
    return ()
  | .reconcile decision => do
    let _ ← reconcile env cap ctx runner decision
    return ()

-- An unknown outcome and a crash is a crash during the write.
def step (env : Env) (cap : Nat) (manifest : PluginManifest) (world : World) : Event → World
  | .crash => { world with live := none }
  | .reopen => { world with
      store := world.store.reopened
      live := (reopen manifest world.store.reopened).toOption }
  | .view leaseId now =>
    match world.live with
    | none => world
    | some live => { world with
        live := some { live with broker := (DynamicSecretBroker.view leaseId now live.broker).2 } }
  | .call ctx call runner fates =>
    match world.live with
    | none => world
    | some live =>
      let reached := (perform env cap ctx runner call ⟨world.store, live.broker, live.pending, fates, world.moments⟩).2
      ⟨reached.store, some ⟨reached.broker, reached.pending⟩, reached.moments⟩

def created (manifest : PluginManifest) : World := ⟨Store.empty, some ⟨freshBroker manifest, none⟩, []⟩

end HeptaBao.Plugin
