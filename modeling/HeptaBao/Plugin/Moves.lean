import HeptaBao.Plugin.Effects
import HeptaBao.Plugin.RoundTrip

namespace HeptaBao.Plugin

open Wire Std Durable Domain Exec Action

-- The four ways a mutation ends at the store.
inductive Executed (env : Env) (cap : Nat) (req : Request) (store : Store) : Except ServiceError MutationOutcome → Store → Prop
  | refused (flaw : ServiceError) : Executed env cap req store (.error flaw) store
  | duplicate (record : LedgerRecord) (gen : Nat) (ref : Str) (resolved : store.unresolved = false)
      (recorded : store.ledger[req.key]? = some record) :
      Executed env cap req store (.ok (.duplicate gen ref)) store
  | committed (gen : Nat) (ref : Str) (resolved : store.unresolved = false) (fresh : store.ledger[req.key]? = none)
      (room : store.ledger.size < cap) :
      Executed env cap req store (.ok (.committed gen ref)) (store.applied env req ref)
  | unknown (ref : Str) (landed : Bool) (resolved : store.unresolved = false) (fresh : store.ledger[req.key]? = none)
      (room : store.ledger.size < cap) :
      Executed env cap req store (.error (.outcomeUnknown ref))
        { (if landed then store.applied env req ref else store) with unresolved := true }

theorem execute_ends (env : Env) (cap : Nat) (req : Request) (fate : Fate) (store : Store) :
    Executed env cap req store (store.execute env cap req fate).1 (store.execute env cap req fate).2 := by
  unfold Store.execute
  by_cases waiting : store.unresolved = true
  · rw [if_pos waiting]
    exact .refused _
  · rw [if_neg waiting]
    have resolved : store.unresolved = false := by simpa using waiting
    cases found : store.ledger[req.key]? with
    | some existing =>
      by_cases differs : existing.bindingDigest ≠ (req.binding env).digest env
      · simp only [if_pos differs]
        exact .refused _
      · simp only [if_neg differs]
        exact .duplicate existing _ _ resolved found
    | none =>
      by_cases full : cap ≤ store.ledger.size
      · simp only [if_pos full]
        exact .refused _
      · simp only [if_neg full]
        cases fate with
        | refused flaw => exact .refused flaw
        | committed ref => exact .committed _ ref resolved found (Nat.lt_of_not_le full)
        | unknown ref landed => exact .unknown ref landed resolved found (Nat.lt_of_not_le full)

namespace Store

variable (env : Env) (store : Store)

@[simp] theorem applied_entries (req : Request) (ref : Str) :
    (store.applied env req ref).entries = req.apply store.entries := rfl

@[simp] theorem applied_unresolved (req : Request) (ref : Str) : (store.applied env req ref).unresolved =
    store.unresolved :=
  rfl

theorem applied_ledger (req : Request) (ref : Str) (key : RequestKey) : (store.applied env req ref).ledger[key]? =
    if req.key = key then
      some ⟨(req.binding env).digest env, ref, store.state.snapshot.generation + 1⟩ else store.ledger[key]? := by
  change (store.ledger.insert req.key _)[key]? = _
  rw [lookup_insert]
  rfl

theorem applied_size (req : Request) (ref : Str) : (store.applied env req ref).ledger.size ≤ store.ledger.size + 1 := by
  change (store.ledger.insert req.key _).size ≤ store.ledger.size + 1
  exact ExtTreeMap.size_insert_le

end Store

section

variable (env : Env) (cap : Nat) (req : Request) (store after : Store) (res : Except ServiceError MutationOutcome)
  (executed : Executed env cap req store res after)

include executed

variable {env cap req store after res} in
theorem executed_entries : after.entries = store.entries ∨
    (after.entries = req.apply store.entries ∧ store.unresolved = false) := by
  cases executed with
  | refused | duplicate => exact .inl rfl
  | committed _ _ resolved => exact .inr ⟨rfl, resolved⟩
  | unknown _ landed resolved =>
    cases landed
    · exact .inl rfl
    · exact .inr ⟨rfl, resolved⟩

variable {env cap req store after res} in
theorem executed_before (resolved : after.unresolved = false) : store.unresolved = false := by
  cases executed with
  | refused => exact resolved
  | duplicate _ _ _ before | committed _ _ before | unknown _ _ before => exact before

variable {env cap req store after res} in
theorem executed_size : after.ledger.size ≤ store.ledger.size + 1 := by
  cases executed with
  | refused | duplicate => exact Nat.le_succ _
  | committed _ ref => exact store.applied_size env req ref
  | unknown ref landed =>
    cases landed
    · exact Nat.le_succ _
    · exact store.applied_size env req ref

theorem executed_fresh (key : RequestKey) (other : req.key ≠ key) (absent : store.ledger[key]? = none) :
    after.ledger[key]? = none := by
  have applied : ∀ ref, (store.applied env req ref).ledger[key]? = none := by
    intro ref
    rw [store.applied_ledger, if_neg other, absent]
  cases executed with
  | refused | duplicate => exact absent
  | committed _ ref => exact applied ref
  | unknown ref landed =>
    cases landed
    · exact absent
    · exact applied ref

theorem executed_error (flaw : ServiceError) (failed : res = .error flaw) : after = store ∨
    after.unresolved = true := by
  cases executed with
  | refused => exact .inl rfl
  | duplicate | committed => cases failed
  | unknown => exact .inr rfl

theorem executed_ok (outcome : MutationOutcome) (answered : res = .ok outcome) (fresh : store.ledger[req.key]? = none) :
    after.entries = req.apply store.entries := by
  cases executed with
  | refused | unknown => cases answered
  | duplicate _ _ _ _ recorded =>
    rw [fresh] at recorded
    cases recorded
  | committed => rfl

variable {env cap req store after res} in
theorem executed_resolved (outcome : MutationOutcome) (answered : res = .ok outcome) : store.unresolved = false ∧
    after.unresolved = false := by
  cases executed with
  | refused | unknown => cases answered
  | duplicate _ _ _ resolved | committed _ _ resolved => exact ⟨resolved, resolved⟩

end

structure Aged (before after : DynamicSecretBroker) : Prop where
  manifest : after.manifest = before.manifest
  state : after.state = before.state
  entered : after.entered = before.entered
  leases : ∀ (id : Id) view, after.leases[id]? = some view → ∃ old, before.leases[id]? = some old ∧
    view.leaseId = old.leaseId ∧
    (view.state = .active → view = old)

theorem aged_same (broker : DynamicSecretBroker) : Aged broker broker :=
  ⟨rfl, rfl, rfl, fun _ view found => ⟨view, found, rfl, fun _ => rfl⟩⟩

theorem view_ends (leaseId : Id) (now : Tick) (broker : DynamicSecretBroker) :
    Ends (DynamicSecretBroker.view leaseId now) broker fun res after => Aged broker after ∧
      ∀ view, res = .ok view → after.leases[leaseId]? = some view ∧
        (view.state = .active → broker = after ∧ ¬view.expiresAt ≤ now) := by
  unfold DynamicSecretBroker.view
  apply ends_read
  cases found : broker.leases[leaseId]? with
  | none => exact ⟨aged_same broker, nofun⟩
  | some current =>
    have expires : ∀ gen, Aged broker
        { broker with leases := broker.leases.insert leaseId { current with state := .expired, generation := gen } } := by
      intro gen
      refine ⟨rfl, rfl, rfl, fun id view stored => ?_⟩
      rw [lookup_insert] at stored
      by_cases same : leaseId = id
      · subst same
        rw [if_pos rfl] at stored
        cases stored
        exact ⟨current, found, rfl, nofun⟩
      · rw [if_neg same] at stored
        exact ⟨view, stored, rfl, fun _ => rfl⟩
    by_cases late : current.state = .active ∧ current.expiresAt ≤ now
    · simp only [if_pos late]
      cases nextGeneration current.generation with
      | none => exact ⟨expires current.generation, nofun⟩
      | some gen =>
        refine ⟨expires gen, fun view same => ?_⟩
        cases same
        exact ⟨(lookup_insert _ _ _ _).trans (if_pos rfl), nofun⟩
    · simp only [if_neg late]
      refine ⟨aged_same broker, fun view same => ?_⟩
      cases same
      exact ⟨found, fun active => ⟨rfl, fun ended => late ⟨active, ended⟩⟩⟩

-- The intents a call may publish, given the leases it finds.
inductive Planned (env : Env) (broker : DynamicSecretBroker) : Call → DurablePluginIntent → Prop
  | issue (spec : DynamicLeaseSpec) (req : SecretValue) (environment : SecretEnvironment) (proposed : Tick)
      (positive : spec.ttl ≠ 0) (absent : broker.leases[spec.leaseId]? = none)
      (added : spec.issuedAt.checkedAdd spec.ttl = .ok proposed) :
      Planned env broker (.issue spec req environment) (issueIntent env spec proposed req)
  | renew (leaseId : Id) (now : Tick) (ttl : UInt64) (req : SecretValue) (environment : SecretEnvironment)
      (prev : DynamicLeaseView) (gen : UInt64) (proposed : Tick) (found : broker.leases[leaseId]? = some prev)
      (active : prev.state = .active) (raised : nextGeneration prev.generation = some gen)
      (added : now.checkedAdd ttl = .ok proposed) :
      Planned env broker (.renew leaseId now ttl req environment) (nextIntent env .renew prev leaseId gen proposed req)
  | revoke (leaseId : Id) (req : SecretValue) (environment : SecretEnvironment) (prev : DynamicLeaseView) (gen : UInt64)
      (found : broker.leases[leaseId]? = some prev) (active : prev.state = .active)
      (raised : nextGeneration prev.generation = some gen) :
      Planned env broker (.revoke leaseId req environment)
        (nextIntent env .revoke prev leaseId gen prev.expiresAt req)

-- The same, from the store the call started with, which had nothing pending.
def AtStart (env : Env) (start : Machine) (call : Call) (store : Store) (intent : DurablePluginIntent) : Prop :=
  store = start.store ∧ start.pending = none ∧ Planned env start.broker call intent

def Outcome (answers : Digest → Prop) (intent : DurablePluginIntent) (view : DynamicLeaseView) : Prop :=
  Resulting answers intent view ∨ intent.previous = some view

section

variable (env : Env) (cap : Nat) (ctx : PluginMutationContext) (plan : Store → DurablePluginIntent → Prop) (answers : Digest → Prop)

-- Everything a call is made of. The number counts durable writes.
inductive Move : Nat → Machine → Machine → Prop
  | looks (m : Machine) (broker : DynamicSecretBroker) (aged : Aged m.broker broker) : Move 0 m { m with broker := broker }
  | publishes (m : Machine) (intent : DurablePluginIntent) (value : Secret) (outcome : MutationOutcome) (store : Store)
      (fates : List Fate) (planned : plan m.store intent) (idle : m.pending = none) (encoded : value.bytes = intentBytes intent)
      (executed : Executed env cap (putRequest ctx (str "intent") (intentResource intent.leaseId) intent value) m.store
        (.ok outcome) store) :
      Move 1 m { m with store := store, fates := fates, pending := some intent }
  | misses (m : Machine) (intent : DurablePluginIntent) (value : Secret) (flaw : ServiceError) (store : Store)
      (fates : List Fate) (planned : plan m.store intent) (idle : m.pending = none) (encoded : value.bytes = intentBytes intent)
      (executed : Executed env cap (putRequest ctx (str "intent") (intentResource intent.leaseId) intent value) m.store
        (.error flaw) store) :
      Move 1 m { m with store := store, fates := fates }
  | enters (m : Machine) (intent : DurablePluginIntent) (res : Except PluginHostError DynamicLeaseView) (broker : DynamicSecretBroker)
      (pending : m.pending = some intent) (resolved : m.store.unresolved = false) (quiet : m.broker.entered = [])
      (effected : Effected env answers intent m.broker res broker) :
      Move 0 m { m with
        broker := { broker with entered := [] }
        moments := m.moments ++ broker.entered.map fun entry => ⟨entry, m.store⟩ }
  | fences (m : Machine) (leaseId : Id) : Move 0 m (m.fence leaseId)
  | leases (m : Machine) (intent : DurablePluginIntent) (view : DynamicLeaseView) (value : Secret)
      (res : Except ServiceError MutationOutcome) (store : Store) (fates : List Fate) (pending : m.pending = some intent)
      (shape : Outcome answers intent view) (encoded : value.bytes = leaseBytes view)
      (executed : Executed env cap (putRequest ctx (str "lease") (leaseResource view.leaseId) intent value) m.store res store) :
      Move 1 m { m with store := store, fates := fates }
  | drops (m : Machine) (intent : DurablePluginIntent) (res : Except ServiceError MutationOutcome) (store : Store)
      (fates : List Fate) (pending : m.pending = some intent)
      (executed : Executed env cap (deleteRequest ctx (str "drop-lease") (leaseResource intent.leaseId) intent) m.store res
        store) :
      Move 1 m { m with store := store, fates := fates }
  | clears (m : Machine) (intent : DurablePluginIntent) (outcome : MutationOutcome) (store : Store) (fates : List Fate)
      (broker : DynamicSecretBroker) (pending : m.pending = some intent)
      (fresh : m.store.ledger[storageRequestKey ctx (str "clear") intent]? = none)
      (kept : broker = m.broker ∨ ∃ resolved, (∀ view, resolved = some view → Outcome answers intent view) ∧
        broker = { resolveLease intent.leaseId resolved m.broker with state := .active })
      (executed : Executed env cap (deleteRequest ctx (str "clear") (intentResource intent.leaseId) intent) m.store
        (.ok outcome) store) :
      Move 1 m { m with store := store, fates := fates, broker := broker, pending := none }
  | lingers (m : Machine) (intent : DurablePluginIntent) (flaw : ServiceError) (store : Store) (fates : List Fate)
      (pending : m.pending = some intent)
      (executed : Executed env cap (deleteRequest ctx (str "clear") (intentResource intent.leaseId) intent) m.store
        (.error flaw) store) :
      Move 1 m { m with store := store, fates := fates }

inductive Moves : Nat → Machine → Machine → Prop
  | refl (writes : Nat) (m : Machine) : Moves writes m m
  | step (now later : Nat) (m middle reached : Machine) (move : Move env cap ctx plan answers now m middle)
      (moves : Moves later middle reached) : Moves (now + later) m reached

theorem moves_one {writes : Nat} {m reached : Machine} (move : Move env cap ctx plan answers writes m reached) :
    Moves env cap ctx plan answers writes m reached := .step writes 0 m reached reached move (.refl 0 reached)

variable {env cap ctx plan answers} in
theorem moves_append {first : Nat} (second : Nat) (m : Machine) {middle : Machine} (reached : Machine)
    (before : Moves env cap ctx plan answers first m middle)
    (after : Moves env cap ctx plan answers second middle reached) :
      Moves env cap ctx plan answers (first + second) m reached := by
  induction before with
  | refl _ m =>
    induction after with
    | refl _ m => exact .refl _ m
    | step now _ m middle reached move _ ih =>
      rw [Nat.add_left_comm]
      exact .step now _ m middle reached move ih
  | step now _ m next _ move _ ih =>
    rw [Nat.add_assoc]
    exact .step now _ m next reached move (ih after)

variable {env cap ctx plan answers} in
theorem moves_invariant (invariant : Machine → Prop)
    (preserves : ∀ writes m reached, Move env cap ctx plan answers writes m reached → invariant m → invariant reached)
    {writes : Nat} (m : Machine) {reached : Machine} (moves : Moves env cap ctx plan answers writes m reached)
    (holds : invariant m) :
    invariant reached := by
  induction moves with
  | refl => exact holds
  | step now _ m middle _ move _ ih => exact ih (preserves now m middle move holds)

theorem moves_weaken (fewer writes : Nat) (m reached : Machine) (moves : Moves env cap ctx plan answers fewer m reached)
    (atMost : fewer ≤ writes) : Moves env cap ctx plan answers writes m reached := by
  have more := moves_append (writes - fewer) m reached moves (.refl _ reached)
  rwa [Nat.add_sub_cancel' atMost] at more

end

theorem secret_new (bytes : Bytes) (filled : bytes ≠ []) (bounded : bytes.length ≤ maxSecretBytes) :
    Secret.new bytes = .ok ⟨bytes, filled, bounded⟩ := by
  unfold Secret.new
  rw [dif_neg filled, dif_pos bounded]

def leaseSecret (view : DynamicLeaseView) : Secret :=
  ⟨leaseBytes view, by simp [leaseBytes, leaseMagic, str], by have := lease_bytes_length view; unfold maxSecretBytes; omega⟩

theorem intent_bytes_fit (intent : DurablePluginIntent) : (intentBytes intent).length ≤ maxSecretBytes := by
  have size := intent_bytes_length intent
  unfold maxSecretBytes
  omega

def intentSecret (intent : DurablePluginIntent) : Secret :=
  ⟨intentBytes intent, by simp [intentBytes, intentMagic, str], intent_bytes_fit intent⟩

variable (env : Env) (cap : Nat) (ctx : PluginMutationContext)

theorem publish_intent_eq (intent : DurablePluginIntent) : publishIntent env cap ctx intent = (do
    submit env cap (putRequest ctx (str "intent") (intentResource intent.leaseId) intent (intentSecret intent))
    Action.modify fun m => { m with pending := some intent }) := by
  unfold publishIntent
  rw [encode_intent_eq]
  have made : Secret.new (intentBytes intent) = .ok (intentSecret intent) := secret_new _ _ _
  change (Action.lift (inService (Secret.new (intentBytes intent))) >>= _) = _
  rw [made]
  rfl

theorem publish_lease_eq (view : DynamicLeaseView) (intent : DurablePluginIntent) :
    publishLease env cap ctx view intent =
    submit env cap (putRequest ctx (str "lease") (leaseResource view.leaseId) intent (leaseSecret view)) := by
  unfold publishLease
  rw [encode_lease_eq]
  have made : Secret.new (leaseBytes view) = .ok (leaseSecret view) := secret_new _ _ _
  change (Action.lift (inService (Secret.new (leaseBytes view))) >>= _) = _
  rw [made]
  rfl

theorem submit_ends (req : Request) (m : Machine) : Ends (submit env cap req) m fun res reached =>
    (∃ flaw, res = .error flaw ∧ reached = m) ∨ ∃ outcome store, Executed env cap req m.store outcome store ∧
        res = (inService outcome).map (fun _ => ()) ∧ reached = { m with store := store, fates := m.fates.tail } := by
  unfold submit
  refine ends_lift_cases (fun flaw _ => .inl ⟨flaw, rfl, rfl⟩) fun value _ => .inr ?_
  exact ⟨_, _, execute_ends env cap req (m.fates.headD (.committed [])) m.store, rfl, rfl⟩

end HeptaBao.Plugin
