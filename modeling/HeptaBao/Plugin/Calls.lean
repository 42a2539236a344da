import HeptaBao.Plugin.Moves

namespace HeptaBao.Plugin

open Wire Std Durable Domain Exec Action List

theorem phases_apart (ctx : PluginMutationContext) (intent : DurablePluginIntent) (phase other : Str)
    (differ : phase ≠ other) :
    storageRequestKey ctx phase intent ≠ storageRequestKey ctx other intent := by
  intro same
  have texts : storageRequestId ctx phase intent = storageRequestId ctx other intent := congrArg RequestKey.requestId same
  unfold storageRequestId at texts
  have tails := append_cancel_left texts
  exact differ (append_cancel_right (List.cons.inj tails).2)

variable {intent : DurablePluginIntent}

section

variable (env : Env) (cap : Nat) (ctx : PluginMutationContext) (plan : Store → DurablePluginIntent → Prop) (answers : Digest → Prop)

-- A write for a pending intent leaves the rest, and the id of the clearing unused.
structure Wrote (intent : DurablePluginIntent) (m reached : Machine) : Prop where
  moves : Moves env cap ctx plan answers 1 m reached
  pending : reached.pending = m.pending
  broker : reached.broker = m.broker
  clear : m.store.ledger[storageRequestKey ctx (str "clear") intent]? = none →
    reached.store.ledger[storageRequestKey ctx (str "clear") intent]? = none

theorem publish_lease_wrote {intent : DurablePluginIntent} {view : DynamicLeaseView} (m : Machine)
    (pending : m.pending = some intent)
    (shape : Outcome answers intent view) : Ends (publishLease env cap ctx view intent) m fun _ reached =>
      Wrote env cap ctx plan answers intent m reached := by
  rw [publish_lease_eq]
  refine ends_weaken (submit_ends env cap _ m) ?_
  rintro res reached (⟨flaw, _, rfl⟩ | ⟨outcome, store, executed, _, rfl⟩)
  · exact ⟨.refl 1 reached, rfl, rfl, id⟩
  · refine ⟨moves_one _ _ _ _ _ (.leases m intent view _ outcome store _ pending shape rfl executed), rfl, rfl, fun fresh => ?_⟩
    exact executed_fresh env cap _ _ _ _ executed _ (phases_apart ctx intent _ _ (by decide)) fresh

theorem delete_lease_wrote (intent : DurablePluginIntent) (m : Machine) (pending : m.pending = some intent) :
    Ends (deleteLease env cap ctx intent) m fun _ reached => Wrote env cap ctx plan answers intent m reached := by
  refine ends_weaken (submit_ends env cap _ m) ?_
  rintro res reached (⟨flaw, _, rfl⟩ | ⟨outcome, store, executed, _, rfl⟩)
  · exact ⟨.refl 1 reached, rfl, rfl, id⟩
  · refine ⟨moves_one _ _ _ _ _ (.drops m intent outcome store _ pending executed), rfl, rfl, fun fresh => ?_⟩
    exact executed_fresh env cap _ _ _ _ executed _ (phases_apart ctx intent _ _ (by decide)) fresh

theorem clear_intent_ends (intent : DurablePluginIntent) (m : Machine) (pending : m.pending = some intent)
    (fresh : m.store.ledger[storageRequestKey ctx (str "clear") intent]? = none) :
      Ends (clearIntent env cap ctx intent) m fun res reached =>
      (∀ flaw, res = .error flaw → Moves env cap ctx plan answers 1 m reached) ∧
        (res = .ok () → ∀ broker, (broker = m.broker ∨
          ∃ resolved, (∀ view, resolved = some view → Outcome answers intent view) ∧
          broker = { resolveLease intent.leaseId resolved m.broker with state := .active }) →
            reached.broker = m.broker ∧
              Moves env cap ctx plan answers 1 m { reached with broker := broker, pending := none }) := by
  refine ends_weaken (submit_ends env cap _ m) ?_
  rintro res reached (⟨flaw, rfl, rfl⟩ | ⟨outcome, store, executed, rfl, rfl⟩)
  · exact ⟨fun _ _ => .refl 1 reached, nofun⟩
  · cases outcome with
    | error flaw =>
      exact ⟨fun _ _ => moves_one _ _ _ _ _ (.lingers m intent flaw store _ pending executed), nofun⟩
    | ok outcome =>
      refine ⟨fun _ wrong => (nomatch wrong), fun _ broker kept => ⟨rfl, ?_⟩⟩
      exact moves_one _ _ _ _ _ (.clears m intent outcome store _ broker pending fresh kept executed)

theorem or_fence_ends (leaseId : Id) (action : PluginAction Unit) (m : Machine) (writes : Nat) (done : Machine → Prop)
    (ends : Ends action m fun res reached =>
      (∀ flaw, res = .error flaw → Moves env cap ctx plan answers writes m reached) ∧ (res = .ok () → done reached)) :
    Ends (orFence leaseId action) m fun res reached => (∀ flaw, res = .error flaw →
      Moves env cap ctx plan answers writes m reached) ∧
        (res = .ok () → done reached) := by
  unfold orFence
  refine ends_bind _ (ends_attempt ends) ?_ ?_
  · rintro flaw reached ⟨_, wrong, _⟩
    cases wrong
  · rintro res reached ⟨value, same, failed, succeeded⟩
    cases same
    cases res with
    | ok => exact ⟨fun _ wrong => (nomatch wrong), fun _ => succeeded rfl⟩
    | error flaw =>
      refine ⟨fun _ _ => ?_, nofun⟩
      exact moves_append 0 m _ (failed flaw rfl)
        (moves_one _ _ _ _ _ (.fences reached leaseId))

theorem clear_and_forget {α : Type} (intent : DurablePluginIntent) (m : Machine) (last : PluginAction α)
    (keeps : ∀ m, (last m).2 = m) (pending : m.pending = some intent)
    (fresh : m.store.ledger[storageRequestKey ctx (str "clear") intent]? = none) :
    Ends (do
      orFence intent.leaseId (clearIntent env cap ctx intent)
      Action.modify fun m => { m with pending := none }
      last) m fun _ reached => Moves env cap ctx plan answers 1 m reached := by
  refine ends_bind _ (or_fence_ends env cap ctx plan answers intent.leaseId _ m 1
    (fun reached => reached.broker = m.broker ∧ Moves env cap ctx plan answers 1 m { reached with pending := none })
    (ends_weaken (clear_intent_ends env cap ctx plan answers intent m pending fresh) ?_)) ?_ ?_
  · rintro res reached ⟨failed, succeeded⟩
    refine ⟨failed, fun ok => ?_⟩
    obtain ⟨same, moves⟩ := succeeded ok m.broker (.inl rfl)
    rw [← same] at moves
    exact ⟨same, moves⟩
  · exact fun flaw reached ended => ended.1 flaw rfl
  · intro _ reached ended
    apply ends_modify
    unfold Ends
    rw [keeps]
    exact (ended.2 rfl).2

theorem carry_out_moves {α : Type} {effect : BrokerAction α} {lease : α → DynamicLeaseView} (m : Machine)
    (pending : m.pending = some intent) (resolved : m.store.unresolved = false) (quiet : m.broker.entered = [])
    (fresh : m.store.ledger[storageRequestKey ctx (str "clear") intent]? = none)
    (effected : Ends effect m.broker fun res after => Effected env answers intent m.broker (res.map lease) after) :
    Ends (carryOut env cap ctx intent effect lease) m fun _ reached => Moves env cap ctx plan answers 2 m reached := by
  unfold carryOut
  unfold Ends at effected
  generalize ran : effect m.broker = outcome at effected
  obtain ⟨res, broker⟩ := outcome
  have entered : Move env cap ctx plan answers 0 m _ := .enters m intent (res.map lease) broker pending resolved quiet effected
  have performed : onBroker effect m = (res, { m with
      broker := { broker with entered := [] }
      moments := m.moments ++ broker.entered.map fun entry => ⟨entry, m.store⟩ }) := by
    simp only [onBroker, ran]
  generalize reachedIs : ({ m with
      broker := { broker with entered := [] }
      moments := m.moments ++ broker.entered.map fun entry => ⟨entry, m.store⟩ } : Machine) = n at entered performed
  have pendingNow : n.pending = some intent := by rw [← reachedIs]; exact pending
  have freshNow : n.store.ledger[storageRequestKey ctx (str "clear") intent]? = none := by rw [← reachedIs]; exact fresh
  unfold Ends
  rw [bind_apply]
  simp only [attempt, performed]
  have onward : ∀ reached, Moves env cap ctx plan answers 2 n reached → Moves env cap ctx plan answers 2 m reached :=
    fun reached moves => .step 0 2 m n reached entered moves
  cases res with
  | ok value =>
    have shape : Outcome answers intent (lease value) := .inl (effected.done (lease value) rfl).1
    refine @ends_weaken _ _ _ _ _ (fun _ reached => Moves env cap ctx plan answers 2 n reached) _ ?_
      (fun _ reached moves => onward reached moves)
    refine ends_bind _ (or_fence_ends env cap ctx plan answers intent.leaseId _ n 1
      (Wrote env cap ctx plan answers intent n)
      (ends_weaken (publish_lease_wrote env cap ctx plan answers n pendingNow shape)
        (fun res reached wrote => ⟨fun _ _ => wrote.moves, fun _ => wrote⟩))) ?_ ?_
    · exact fun flaw reached ended => moves_weaken _ _ _ _ _ 1 2 _ _ (ended.1 flaw rfl) (by omega)
    · intro _ reached ended
      have wrote := ended.2 rfl
      refine ends_weaken (clear_and_forget env cap ctx plan answers intent reached (pure value) (fun _ => rfl)
        (wrote.pending.trans pendingNow) (wrote.clear freshNow)) ?_
      exact fun _ final moves => moves_append 1 n final wrote.moves moves
  | error flaw =>
    have stays : Moves env cap ctx plan answers 2 n n := .refl 2 n
    have doubts : Moves env cap ctx plan answers 2 n (n.fence intent.leaseId) :=
      moves_weaken _ _ _ _ _ 0 2 _ _ (@moves_one _ _ _ _ _ 0 _ _ (.fences n intent.leaseId)) (by omega)
    by_cases early : flaw = .processBeforeEntry
    · subst early
      have cleared := clear_and_forget env cap ctx plan answers intent n
        (fail .processBeforeEntry : PluginAction α) (fun _ => rfl) pendingNow freshNow
      exact onward _ (moves_weaken _ _ _ _ _ 1 2 _ _ cleared (by omega))
    · have rest : Ends (do
          let m ← Action.read
          if m.broker.state = .reconciliationRequired then do
            Action.modify (Machine.fence intent.leaseId)
            fail flaw
          else fail flaw : PluginAction α) n fun _ reached => Moves env cap ctx plan answers 2 n reached := by
        apply ends_read
        by_cases uncertain : n.broker.state = .reconciliationRequired
        · rw [if_pos uncertain]
          exact doubts
        · rw [if_neg uncertain]
          exact stays
      refine onward _ ?_
      cases flaw <;> first | exact absurd rfl early | exact rest

-- The intent is pending once its publication was answered.
theorem publish_intent_ends (intent : DurablePluginIntent) (m : Machine) (planned : plan m.store intent)
    (idle : m.pending = none) :
    Ends (publishIntent env cap ctx intent) m fun res reached =>
      Moves env cap ctx plan answers 1 m reached ∧ (res = .ok () → reached.pending = some intent ∧
        reached.store.unresolved = false ∧ reached.broker = m.broker ∧
          (m.store.ledger[storageRequestKey ctx (str "clear") intent]? = none →
            reached.store.ledger[storageRequestKey ctx (str "clear") intent]? = none)) := by
  rw [publish_intent_eq]
  refine ends_bind _ (submit_ends env cap _ m) ?_ ?_
  · rintro flaw reached (⟨_, _, rfl⟩ | ⟨outcome, store, executed, res, rfl⟩)
    · exact ⟨.refl 1 reached, nofun⟩
    · cases outcome with
      | ok => cases res
      | error flaw =>
        exact ⟨moves_one _ _ _ _ _ (.misses m intent _ flaw store _ planned idle rfl executed), nofun⟩
  · rintro _ reached (⟨_, wrong, _⟩ | ⟨outcome, store, executed, res, rfl⟩)
    · cases wrong
    · cases outcome with
      | error => cases res
      | ok outcome =>
        refine ⟨moves_one _ _ _ _ _ (.publishes m intent _ outcome store _ planned idle rfl executed), fun _ => ⟨rfl, ?_, rfl, ?_⟩⟩
        · exact (executed_resolved executed outcome rfl).2
        · exact executed_fresh env cap _ _ _ _ executed _ (phases_apart ctx intent _ _ (by decide))

theorem operation_moves {α : Type} {effect : BrokerAction α} {lease : α → DynamicLeaseView} {m : Machine}
    (planned : plan m.store intent) (idle : m.pending = none) (quiet : m.broker.entered = [])
    (fresh : m.store.ledger[storageRequestKey ctx (str "clear") intent]? = none)
    (effected : Ends effect m.broker fun res after => Effected env answers intent m.broker (res.map lease) after) :
    Ends (publishIntent env cap ctx intent >>= fun _ => carryOut env cap ctx intent effect lease) m
      fun _ reached => Moves env cap ctx plan answers 3 m reached := by
  refine ends_bind _ (publish_intent_ends env cap ctx plan answers intent m planned idle) ?_ ?_
  · exact fun flaw reached ended => moves_weaken _ _ _ _ _ 1 3 _ _ ended.1 (by omega)
  · intro _ reached ended
    obtain ⟨pending, resolved, broker, keeps⟩ := ended.2 rfl
    rw [← broker] at quiet effected
    refine ends_weaken (carry_out_moves env cap ctx plan answers reached pending resolved quiet
      (keeps fresh) effected) ?_
    exact fun _ final moves => moves_append 2 m final ended.1 moves

end

theorem in_domain_ok {α : Type} (res : Except DomainError α) (value : α) (made : inDomain res = .ok value) :
    res = .ok value := by
  cases res with
  | error => cases made
  | ok =>
    cases made
    rfl

theorem ensure_ready_ends (m : Machine) : Ends ensureReady m fun res reached => reached = m ∧
    (res = .ok () → m.pending = none) := by
  unfold ensureReady
  apply ends_read
  refine ends_refuse (fun _ => ⟨rfl, nofun⟩) fun clear => ?_
  have idle : m.pending = none := by simpa using clear
  cases m.broker.state with
  | active | reconciliationRequired | revoked => exact ⟨rfl, fun _ => idle⟩

theorem on_broker_ends {α : Type} (action : BrokerAction α) (m : Machine)
    (post : Except PluginHostError α → DynamicSecretBroker → Prop)
    (ends : Ends action m.broker post) (silent : ∀ res after, post res after → after.entered = []) :
    Ends (onBroker action) m fun res reached => ∃ broker, post res broker ∧ reached = { m with broker := broker } := by
  have quiet := silent _ _ ends
  have same : { (action m.broker).2 with entered := [] } = (action m.broker).2 := by rw [← quiet]
  refine ⟨(action m.broker).2, ends, ?_⟩
  simp only [onBroker, quiet, map_nil, append_nil, same]

section

variable (env : Env) (cap : Nat) (ctx : PluginMutationContext) (runner : SandboxRunner) (m : Machine)
  (named : Named m.broker) (quiet : m.broker.entered = [])

theorem on_broker_idle {α : Type} {action : BrokerAction α} (plan : Store → DurablePluginIntent → Prop)
    (answers : Digest → Prop) {n : Machine}
    (silent : n.broker.entered = []) (idle : (action n.broker).2 = n.broker) (writes : Nat) :
    Ends (onBroker action) n fun _ reached => Moves env cap ctx plan answers writes n reached := by
  refine ends_weaken (on_broker_ends action n (fun _ after => after = n.broker) idle
    (fun _ after same => same ▸ silent)) ?_
  rintro _ reached ⟨broker, rfl, rfl⟩
  exact .refl writes n

include quiet

theorem issue_moves (spec : DynamicLeaseSpec) (req : SecretValue) (environment : SecretEnvironment)
    (careful : ∀ intent, Planned env m.broker (.issue spec req environment) intent →
      m.store.ledger[storageRequestKey ctx (str "clear") intent]? = none) :
    Ends (issue env cap ctx runner spec req environment) m fun _ reached =>
      Moves env cap ctx (AtStart env m (.issue spec req environment)) (Answered env runner) 3 m reached := by
  unfold issue
  refine ends_bind _ (ensure_ready_ends m) ?_ ?_
  · rintro flaw reached ⟨rfl, _⟩
    exact .refl 3 reached
  rintro _ reached ⟨rfl, ready⟩
  apply ends_read
  by_cases refused : spec.ttl = 0 ∨ maxLeaseTtl < spec.ttl.toNat ∨ reached.broker.leases.contains spec.leaseId = true
  · rw [if_pos refused]
    refine on_broker_idle env cap ctx _ _ quiet ?_ 3
    unfold DynamicSecretBroker.issue
    by_cases ttl : spec.ttl = 0 ∨ maxLeaseTtl < spec.ttl.toNat
    · simp only [bind_apply, Action.read, refuse, lift, if_pos ttl]
    · have held : reached.broker.leases.contains spec.leaseId = true := (or_assoc.mpr refused).resolve_left ttl
      simp only [bind_apply, Action.read, refuse, lift, if_neg ttl, if_pos held]
  · rw [if_neg refused]
    obtain ⟨positive, _, absent⟩ : spec.ttl ≠ 0 ∧ _ ∧ _ := by simpa only [not_or] using refused
    have missing : reached.broker.leases[spec.leaseId]? = none := ExtTreeMap.getElem?_eq_none (by simpa using absent)
    refine ends_lift_cases (fun _ _ => .refl 3 reached) fun proposed made => ?_
    have added := in_domain_ok _ _ made
    have planned : Planned env reached.broker (.issue spec req environment) _ := .issue spec req environment proposed positive missing added
    exact operation_moves env cap ctx _ _ ⟨rfl, ready rfl, planned⟩ (ready rfl) quiet (careful _ planned)
      (issue_effected env runner req environment added reached.broker)

include named

theorem renew_moves (leaseId : Id) (now : Tick) (ttl : UInt64) (req : SecretValue) (environment : SecretEnvironment)
    (careful : ∀ intent, Planned env m.broker (.renew leaseId now ttl req environment) intent →
      m.store.ledger[storageRequestKey ctx (str "clear") intent]? = none) :
    Ends (renew env cap ctx runner leaseId now ttl req environment) m fun _ reached =>
      Moves env cap ctx (AtStart env m (.renew leaseId now ttl req environment)) (Answered env runner) 3 m reached := by
  unfold renew
  refine ends_bind _ (ensure_ready_ends m) ?_ ?_
  · rintro flaw reached ⟨rfl, _⟩
    exact .refl 3 reached
  rintro _ reached ⟨rfl, ready⟩
  refine ends_bind _ (on_broker_ends _ reached _ (view_ends leaseId now reached.broker)
    (fun _ after ended => ended.1.entered.trans quiet)) ?_ ?_
  · rintro flaw after ⟨broker, ⟨aged, _⟩, rfl⟩
    exact moves_weaken _ _ _ _ _ 0 3 _ _ (moves_one _ _ _ _ _ (.looks reached broker aged)) (by omega)
  · rintro prev after ⟨broker, ⟨aged, seen⟩, rfl⟩
    obtain ⟨found, current⟩ := seen prev rfl
    have looked : Moves env cap ctx (AtStart env reached (.renew leaseId now ttl req environment)) (Answered env runner)
        3 reached { reached with broker := broker } :=
      moves_weaken _ _ _ _ _ 0 3 _ _ (moves_one _ _ _ _ _ (.looks reached broker aged)) (by omega)
    by_cases refused : ttl = 0 ∨ maxLeaseTtl < ttl.toNat ∨ prev.state ≠ .active ∨ prev.renewable = false
    · rw [if_pos refused]
      have calm : ¬(prev.state = .active ∧ prev.expiresAt ≤ now) := fun both => (current both.1).2 both.2
      refine ends_weaken (on_broker_idle env cap ctx (AtStart env reached
        (.renew leaseId now ttl req environment)) (Answered env runner)
          (aged.entered.trans quiet) ?_ 0) ?_
      · unfold DynamicSecretBroker.renew
        by_cases bad : ttl = 0 ∨ maxLeaseTtl < ttl.toNat
        · simp only [bind_apply, refuse, lift, if_pos bad]
        · have stale : prev.state ≠ .active ∨ prev.renewable = false := (or_assoc.mpr refused).resolve_left bad
          simp only [bind_apply, refuse, lift, if_neg bad, view_same found calm, if_pos stale]
      · exact fun _ final moves => moves_append 0 _ _ looked moves
    · rw [if_neg refused]
      simp only [not_or, not_not] at refused
      obtain ⟨_, _, active, _⟩ := refused
      obtain ⟨rfl, alive⟩ := current active
      cases raised : nextGeneration prev.generation with
      | none => exact looked
      | some gen =>
        refine ends_lift_cases (fun _ _ => looked) fun proposed made => ?_
        have added := in_domain_ok _ _ made
        have planned : Planned env reached.broker (.renew leaseId now ttl req environment) _ :=
          .renew leaseId now ttl req environment prev gen proposed found active raised added
        refine operation_moves env cap ctx _ _ ⟨rfl, ready rfl, planned⟩ (ready rfl) quiet (careful _ planned) ?_
        refine ends_weaken (renew_effected env runner leaseId req environment reached.broker prev found
          (named leaseId prev found) active gen raised alive added) ?_
        intro res final effected
        rwa [show res.map id = res by cases res <;> rfl]

theorem revoke_moves (leaseId : Id) (req : SecretValue) (environment : SecretEnvironment)
    (careful : ∀ intent, Planned env m.broker (.revoke leaseId req environment) intent →
      m.store.ledger[storageRequestKey ctx (str "clear") intent]? = none) :
    Ends (revoke env cap ctx runner leaseId req environment) m fun _ reached =>
      Moves env cap ctx (AtStart env m (.revoke leaseId req environment)) (Answered env runner) 3 m reached := by
  unfold revoke
  refine ends_bind _ (ensure_ready_ends m) ?_ ?_
  · rintro flaw reached ⟨rfl, _⟩
    exact .refl 3 reached
  rintro _ reached ⟨rfl, ready⟩
  apply ends_read
  cases found : reached.broker.leases[leaseId]? with
  | none => exact .refl 3 reached
  | some prev =>
    by_cases stale : prev.state ≠ .active
    · simp only [if_pos stale]
      refine on_broker_idle env cap ctx _ _ quiet ?_ 3
      unfold DynamicSecretBroker.revoke
      simp only [bind_apply, Action.read, found, if_pos stale]
      rfl
    · have active : prev.state = .active := not_not.mp stale
      simp only [if_neg stale]
      cases raised : nextGeneration prev.generation with
      | none => exact .refl 3 reached
      | some gen =>
        have planned : Planned env reached.broker (.revoke leaseId req environment) _ := .revoke leaseId req environment prev gen found active raised
        refine operation_moves env cap ctx _ _ ⟨rfl, ready rfl, planned⟩ (ready rfl) quiet (careful _ planned) ?_
        refine ends_weaken (revoke_effected env runner leaseId req environment reached.broker prev found
          (named leaseId prev found) active gen raised) ?_
        intro res final effected
        rwa [show res.map id = res by cases res <;> rfl]

end

theorem resolution_outcome (answers : Digest → Prop) {decision : DurableReconciliationDecision}
    {resolved : Option DynamicLeaseView} (decided : resolution intent decision = .ok resolved) (view : DynamicLeaseView)
    (isView : resolved = some view) : Outcome answers intent view := by
  cases decision with
  | provenNoEffect =>
    cases decided
    exact .inr isView
  | completed lease responseDigest =>
    obtain ⟨checked, rest⟩ := unit_bind_ok decided
    cases rest
    cases isView
    left
    unfold validateCompletedResolution at checked
    split at checked
    · cases checked
    · rename_i fields
      simp only [not_or, not_not] at fields
      obtain ⟨nonzero, leaseId, _, _, issuedAt, expiresAt, _, gen⟩ := fields
      have answered : ∀ state, view.state = state → state ≠ .reconciliationRequired → (view.secretDigest = responseDigest ∨
          ∃ prev, intent.previous = some prev ∧ view.secretDigest = prev.secretDigest) → Resulting answers intent view := by
        intro state isState certain digest
        refine ⟨leaseId, issuedAt, expiresAt, gen, isState ▸ certain, ?_⟩
        rcases digest with same | prev
        · exact .inr (.inl (same ▸ nonzero))
        · exact .inr (.inr prev)
      have fresh : (if view.state ≠ .active ∨ view.secretDigest ≠ responseDigest then
          (.error .invalidReconciliation : Except PluginHostError Unit) else .ok ()) = .ok () → Resulting answers intent view := by
        intro passes
        split at passes
        · cases passes
        · rename_i good
          simp only [not_or, not_not] at good
          exact answered .active good.1 (by decide) (.inl good.2)
      cases op : intent.operation with
      | read | write => simp [op] at checked
      | issue | renew =>
        rw [op] at checked
        exact fresh checked
      | revoke =>
        rw [op] at checked
        simp only at checked
        split at checked
        · cases checked
        · rename_i good
          simp only [not_or, not_not] at good
          refine answered .revoked good.1 (by decide) (.inr ?_)
          cases prev : intent.previous with
          | none => simp [prev] at good
          | some old =>
            refine ⟨old, rfl, ?_⟩
            have same := good.2
            simp only [prev, Option.all_some, decide_not, Bool.not_eq_true', decide_eq_false_iff_not, not_not] at same
            exact same.symm

section

variable (env : Env) (cap : Nat) (ctx : PluginMutationContext) (runner : SandboxRunner) (plan : Store → DurablePluginIntent → Prop)
  (answers : Digest → Prop) (m : Machine)

theorem reconcile_moves (decision : DurableReconciliationDecision)
    (careful : ∀ intent, m.pending = some intent → m.store.ledger[storageRequestKey ctx (str "clear") intent]? = none) :
    Ends (reconcile env cap ctx runner decision) m fun _ reached => Moves env cap ctx plan answers 2 m reached := by
  unfold reconcile
  apply ends_read
  cases pending : m.pending with
  | none => exact .refl 2 m
  | some intent =>
    refine ends_lift_cases (fun _ _ => .refl 2 m) fun _ _ => ?_
    refine ends_lift_cases (fun _ _ => .refl 2 m) fun resolved decided => ?_
    have shapes := resolution_outcome answers decided
    have finish : ∀ (write : PluginAction Unit), Ends write m (fun _ reached => Wrote env cap ctx plan answers intent m reached) →
        Ends (write >>= fun _ => clearIntent env cap ctx intent >>= fun _ =>
          Action.modify (fun m => { m with
            broker := { resolveLease intent.leaseId resolved m.broker with state := .active }
            pending := none }) >>= fun _ => pure resolved) m fun _ reached => Moves env cap ctx plan answers 2 m reached := by
      intro write wrote
      refine ends_bind _ wrote ?_ ?_
      · exact fun _ reached wrote => moves_weaken _ _ _ _ _ 1 2 _ _ wrote.moves (by omega)
      · intro _ middle wrote
        have onward := fun final => moves_append 1 m final wrote.moves
        refine ends_bind _ (clear_intent_ends env cap ctx plan answers intent middle
          (wrote.pending.trans pending) (wrote.clear (careful intent pending))) ?_ ?_
        · exact fun flaw reached ended => onward reached (ended.1 flaw rfl)
        · intro _ reached ended
          obtain ⟨same, moves⟩ := ended.2 rfl _ (.inr ⟨resolved, shapes, rfl⟩)
          apply ends_modify
          refine onward _ ?_
          rw [← same] at moves
          exact moves
    cases isResolved : resolved with
    | some view =>
      rw [isResolved] at finish
      exact finish _ (publish_lease_wrote env cap ctx plan answers m pending (shapes view isResolved))
    | none =>
      rw [isResolved] at finish
      exact finish _ (delete_lease_wrote env cap ctx plan answers intent m pending)

end

def Addressed (env : Env) (live : Live) : Call → DurablePluginIntent → Prop
  | .reconcile _, intent => live.pending = some intent
  | call, intent => Planned env live.broker call intent

def Call.writes : Call → Nat
  | .reconcile _ => 2
  | _ => 3

theorem perform_moves (env : Env) (cap : Nat) (ctx : PluginMutationContext) (runner : SandboxRunner) (call : Call)
    (m : Machine)
    (named : Named m.broker) (quiet : m.broker.entered = [])
    (careful : ∀ intent, Addressed env ⟨m.broker, m.pending⟩ call intent →
      m.store.ledger[storageRequestKey ctx (str "clear") intent]? = none) :
    Moves env cap ctx (AtStart env m call)
    (Answered env runner) call.writes m (perform env cap ctx runner call m).2 := by
  have finish : ∀ {α : Type} (action : PluginAction α), Ends action m (fun _ reached =>
      Moves env cap ctx (AtStart env m call) (Answered env runner) call.writes m reached) →
        Moves env cap ctx (AtStart env m call) (Answered env runner) call.writes m
          ((action >>= fun _ => (pure () : PluginAction Unit)) m).2 :=
    fun action ends => @ends_bind _ _ _ _ _ _ _ _ (fun _ reached => Moves env cap ctx _ _ _ m reached) ends
      (fun _ _ moves => moves) (fun _ _ moves => moves)
  cases call with
  | issue spec req environment => exact finish _ (issue_moves env cap ctx runner m quiet spec req environment careful)
  | renew leaseId now ttl req environment =>
    exact finish _ (renew_moves env cap ctx runner m named quiet leaseId now ttl req environment careful)
  | revoke leaseId req environment =>
    exact finish _ (revoke_moves env cap ctx runner m named quiet leaseId req environment careful)
  | reconcile decision => exact finish _ (reconcile_moves env cap ctx runner _ _ m decision careful)

end HeptaBao.Plugin
