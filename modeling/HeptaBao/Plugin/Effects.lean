import HeptaBao.Plugin.Durable

namespace HeptaBao.Plugin

open Wire Std Durable Domain Exec Action

variable (env : Env) (runner : SandboxRunner)

def Answered (digest : Digest) : Prop :=
  ∃ manifest op req environment response, runner.invoke manifest op req environment = .ok response ∧ digest = env.sha256 response.bytes

def Matches (intent : DurablePluginIntent) (entry : Entered) : Prop :=
  entry.operation = intent.operation ∧ ∃ req, bindDynamicRequest intent.operation.asStr intent.leaseId intent.generation req = .ok entry.request ∧
      intent.requestDigest = boundRequestDigest env intent.operation req

def Named (broker : DynamicSecretBroker) : Prop := ∀ (id : Id) view, broker.leases[id]? = some view → view.leaseId = id

structure Resulting (answers : Digest → Prop) (intent : DurablePluginIntent) (view : DynamicLeaseView) : Prop where
  leaseId : view.leaseId = intent.leaseId
  issuedAt : view.issuedAt = intent.issuedAt
  expiresAt : view.expiresAt = intent.proposedExpiresAt
  generation : view.generation = intent.generation
  certain : view.state ≠ .reconciliationRequired
  digest : answers view.secretDigest ∨ view.secretDigest ≠ zeroDigest ∨ ∃ prev, intent.previous = some prev ∧
    view.secretDigest = prev.secretDigest

-- What the broker's own issue, renew and revoke do on behalf of an intent.
structure Effected (env : Env) (answers : Digest → Prop) (intent : DurablePluginIntent) (before : DynamicSecretBroker)
    (res : Except PluginHostError DynamicLeaseView) (after : DynamicSecretBroker) : Prop where
  manifest : after.manifest = before.manifest
  entered : after.entered = before.entered ∨ ∃ entry, Matches env intent entry ∧
    after.entered = before.entered ++ [entry]
  done : ∀ view, res = .ok view → Resulting answers intent view ∧
    after.leases = before.leases.insert intent.leaseId view ∧ after.state = before.state
  failed : ∀ flaw, res = .error flaw → after.leases = before.leases ∨ ∃ view, before.leases[intent.leaseId]? =
    some view ∧
      after.leases = before.leases.insert intent.leaseId { view with state := .reconciliationRequired }

structure Invoked (runner : SandboxRunner) (op : PluginOperation) (req : SecretValue) (environment : SecretEnvironment)
    (before : DynamicSecretBroker) (res : Except PluginHostError SecretValue) (after : DynamicSecretBroker) : Prop where
  manifest : after.manifest = before.manifest
  leases : after.leases = before.leases
  entered : after.entered = before.entered ∨ after.entered = before.entered ++ [⟨op, req⟩]
  answered : ∀ response, res = .ok response → runner.invoke before.manifest op req environment = .ok response ∧
    after.state = before.state

theorem invoke_ends (op : PluginOperation) (req : SecretValue) (environment : SecretEnvironment)
    (broker : DynamicSecretBroker) :
    Ends (invoke runner op req environment) broker (Invoked runner op req environment broker) := by
  have refused : ∀ flaw, Invoked runner op req environment broker (.error flaw) broker :=
    fun flaw => ⟨rfl, rfl, .inl rfl, fun response wrong => nomatch wrong⟩
  unfold invoke
  apply ends_read
  refine ends_refuse (fun _ => refused _) fun _ => ?_
  refine ends_refuse (fun _ => refused _) fun _ => ?_
  refine ends_refuse (fun _ => refused _) fun _ => ?_
  refine ends_refuse (fun _ => refused _) fun _ => ?_
  refine ends_refuse (fun _ => refused _) fun _ => ?_
  apply ends_modify
  -- From here on the runner has been entered.
  have left : ∀ flaw (after : DynamicSecretBroker), after.manifest = broker.manifest → after.leases = broker.leases →
      after.entered = broker.entered ++ [⟨op, req⟩] → Invoked runner op req environment broker (.error flaw) after :=
    fun flaw after manifest leases entered => ⟨manifest, leases, .inr entered, fun response wrong => nomatch wrong⟩
  cases outcome : runner.invoke broker.manifest op req environment with
  | ok response =>
    by_cases fits : response.bytes.length ≤ broker.manifest.maximumResponseBytes
    · simp only [if_pos fits]
      refine ⟨rfl, rfl, .inr rfl, fun other same => ?_⟩
      cases same
      exact ⟨outcome, rfl⟩
    · simp only [if_neg fits]
      exact left _ _ rfl rfl rfl
  | error flaw =>
    cases flaw with
    | beforeEntry | outcomeUnknownAfterEntry => exact left _ _ rfl rfl rfl

theorem effected_idle (answers : Digest → Prop) (intent : DurablePluginIntent) (broker : DynamicSecretBroker)
    (flaw : PluginHostError) : Effected env answers intent broker (.error flaw) broker :=
  ⟨rfl, .inl rfl, fun _ wrong => (nomatch wrong), fun _ _ => .inl rfl⟩

variable {op : PluginOperation} {bound : SecretValue}

theorem matches_bound {leaseId : Id} {gen : UInt64} {req : SecretValue}
    (intent : DurablePluginIntent) (isOperation : intent.operation = op) (isLease : intent.leaseId = leaseId)
    (isGeneration : intent.generation = gen) (digest : intent.requestDigest = boundRequestDigest env op req)
    (made : bindDynamicRequest op.asStr leaseId gen req = .ok bound) : Matches env intent ⟨op, bound⟩ := by
  subst isOperation isLease isGeneration
  exact ⟨rfl, req, made, digest⟩

variable {proposed : Tick}

theorem issue_effected {spec : DynamicLeaseSpec} (req : SecretValue)
    (environment : SecretEnvironment) (added : spec.issuedAt.checkedAdd spec.ttl = .ok proposed)
    (broker : DynamicSecretBroker) :
    Ends (DynamicSecretBroker.issue env runner spec req environment) broker fun res after =>
      Effected env (Answered env runner) (issueIntent env spec proposed req) broker (res.map DynamicSecretIssue.lease)
        after := by
  have idle := effected_idle env (Answered env runner) (issueIntent env spec proposed req) broker
  unfold DynamicSecretBroker.issue
  apply ends_read
  refine ends_refuse (fun _ => idle _) fun _ => ?_
  refine ends_refuse (fun _ => idle _) fun _ => ?_
  refine ends_lift _ proposed _ _ _ (by rw [added]; rfl) ?_
  refine ends_lift_cases (fun flaw _ => idle flaw) fun bound made => ?_
  have entry := matches_bound env (issueIntent env spec proposed req) rfl rfl rfl rfl made
  refine ends_bind _ (invoke_ends runner .issue bound environment broker) ?_ ?_
  · intro flaw after invoked
    exact ⟨invoked.manifest, invoked.entered.imp id fun grown => ⟨_, entry, grown⟩, fun _ wrong => (nomatch wrong), fun _ _ => .inl invoked.leases⟩
  · intro secret after invoked
    obtain ⟨response, state⟩ := invoked.answered secret rfl
    refine ⟨invoked.manifest, invoked.entered.imp id fun grown => ⟨_, entry, grown⟩, ?_, nofun⟩
    intro view same
    cases same
    refine ⟨⟨rfl, rfl, rfl, rfl, by simp, .inl ⟨_, _, _, _, secret, response, rfl⟩⟩, ?_, state⟩
    rw [← invoked.leases]
    rfl

theorem view_same {leaseId : Id} {now : Tick} {broker : DynamicSecretBroker} {current : DynamicLeaseView}
    (found : broker.leases[leaseId]? = some current) (fresh : ¬(current.state = .active ∧ current.expiresAt ≤ now)) :
    DynamicSecretBroker.view leaseId now broker = (.ok current, broker) := by
  unfold DynamicSecretBroker.view
  rw [bind_apply]
  simp only [Action.read, found, if_neg fresh]
  rfl

theorem conclude_effected {env : Env} {runner : SandboxRunner} {intent : DurablePluginIntent}
    {environment : SecretEnvironment} {broker : DynamicSecretBroker} {current : DynamicLeaseView}
    (found : broker.leases[intent.leaseId]? = some current)
    {change : SecretValue → Except PluginHostError (DynamicLeaseView → DynamicLeaseView)}
    (entry : Matches env intent ⟨op, bound⟩)
    (changes : ∀ response apply, runner.invoke broker.manifest op bound environment = .ok response →
      change response = .ok apply → Resulting (Answered env runner) intent (apply current)) :
    Ends (attempt (invoke runner op bound environment) >>= fun res =>
      DynamicSecretBroker.conclude intent.leaseId res change) broker
        (Effected env (Answered env runner) intent broker) := by
  refine ends_bind _ (ends_attempt (invoke_ends runner op bound environment broker)) ?_ ?_
  · rintro flaw after ⟨_, wrong, _⟩
    cases wrong
  · rintro res after ⟨value, same, invoked⟩
    cases same
    have entered : after.entered = broker.entered ∨ ∃ entry, Matches env intent entry ∧ after.entered = broker.entered ++ [entry] :=
      invoked.entered.imp id fun grown => ⟨_, entry, grown⟩
    unfold DynamicSecretBroker.conclude
    apply ends_read
    cases res with
    | ok response =>
      obtain ⟨answer, state⟩ := invoked.answered response rfl
      refine ends_lift_cases ?_ fun apply made => ?_
      · exact fun flaw _ => ⟨invoked.manifest, entered, fun _ wrong => (nomatch wrong), fun _ _ => .inl invoked.leases⟩
      · simp only [invoked.leases, found]
        refine ⟨invoked.manifest, entered, ?_, nofun⟩
        intro view same
        cases same
        exact ⟨changes response apply answer made, by rw [← invoked.leases]; rfl, state⟩
    | error =>
      by_cases uncertain : after.state = .reconciliationRequired
      · simp only [if_pos uncertain]
        apply ends_modify
        have doubted : after.doubtLease intent.leaseId =
            { after with leases := broker.leases.insert intent.leaseId { current with state := .reconciliationRequired } } := by
          simp only [DynamicSecretBroker.doubtLease, invoked.leases, found]
        rw [doubted]
        exact ⟨invoked.manifest, entered, fun _ wrong => (nomatch wrong), fun _ _ => .inr ⟨current, found, rfl⟩⟩
      · simp only [if_neg uncertain]
        exact ⟨invoked.manifest, entered, fun _ wrong => (nomatch wrong), fun _ _ => .inl invoked.leases⟩

variable (env : Env) (runner : SandboxRunner) (leaseId : Id) (req : SecretValue) (environment : SecretEnvironment)
  (broker : DynamicSecretBroker) (prev : DynamicLeaseView) (found : broker.leases[leaseId]? = some prev)
  (named : prev.leaseId = leaseId) (active : prev.state = .active) (gen : UInt64)
  (raised : nextGeneration prev.generation = some gen)

include found named active raised

theorem renew_effected {now : Tick} {ttl : UInt64} (alive : ¬prev.expiresAt ≤ now)
    (added : now.checkedAdd ttl = .ok proposed) :
    Ends (DynamicSecretBroker.renew env runner leaseId now ttl req environment) broker
      (Effected env (Answered env runner) (nextIntent env .renew prev leaseId gen proposed req) broker) := by
  have idle := effected_idle env (Answered env runner) (nextIntent env .renew prev leaseId gen proposed req) broker
  have fresh : ¬(prev.state = .active ∧ prev.expiresAt ≤ now) := fun both => alive both.2
  unfold DynamicSecretBroker.renew
  refine ends_refuse (fun _ => idle _) fun _ => ?_
  unfold Ends
  rw [bind_apply, view_same found fresh]
  change Ends _ broker _
  refine ends_refuse (fun _ => idle _) fun _ => ?_
  simp only [raised]
  refine ends_lift_cases (fun flaw _ => idle flaw) fun bound made => ?_
  have entry := matches_bound env (nextIntent env .renew prev leaseId gen proposed req)
    rfl rfl rfl rfl made
  refine conclude_effected found entry ?_
  intro response apply answer made
  rw [added] at made
  cases made
  exact ⟨named, rfl, rfl, rfl, by simp [active], .inl ⟨_, _, _, _, response, answer, rfl⟩⟩

theorem revoke_effected : Ends (DynamicSecretBroker.revoke runner leaseId req environment) broker
      (Effected env (Answered env runner) (nextIntent env .revoke prev leaseId gen prev.expiresAt req) broker) := by
  have idle := effected_idle env (Answered env runner) (nextIntent env .revoke prev leaseId gen prev.expiresAt req) broker
  have isActive : ¬(prev.state ≠ .active) := fun wrong => wrong active
  unfold DynamicSecretBroker.revoke
  apply ends_read
  simp only [found, if_neg isActive, raised]
  refine ends_lift_cases (fun flaw _ => idle flaw) fun bound made => ?_
  have entry := matches_bound env
    (nextIntent env .revoke prev leaseId gen prev.expiresAt req) rfl rfl rfl rfl made
  refine conclude_effected found entry ?_
  intro response apply answer made
  cases made
  exact ⟨named, rfl, rfl, rfl, by simp, .inr (.inr ⟨prev, rfl, rfl⟩)⟩

end HeptaBao.Plugin
