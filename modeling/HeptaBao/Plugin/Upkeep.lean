import HeptaBao.Plugin.Reopening

namespace HeptaBao.Plugin

open Wire Std Durable Domain Exec ExtTreeMap

theorem lease_valid_iff (view : DynamicLeaseView) : validateLeaseView view = .ok () ↔
    view.generation ≠ 0 ∧ view.secretDigest ≠ zeroDigest ∧ view.issuedAt < view.expiresAt := by
  unfold validateLeaseView
  split
  · rename_i bad
    simp only [corrupt, reduceCtorEq, false_iff, not_and, UInt64.not_lt]
    intro gen digest
    rcases bad with zero | zero | order
    · exact absurd zero gen
    · exact absurd zero digest
    · exact order
  · rename_i good
    simp only [not_or, UInt64.not_le] at good
    exact iff_of_true rfl good

theorem intent_valid_parts (intent : DurablePluginIntent) (valid : validateIntent intent = .ok ()) :
    intent.generation ≠ 0 ∧ intent.requestDigest ≠ zeroDigest ∧ intent.issuedAt < intent.proposedExpiresAt := by
  unfold validateIntent at valid
  split at valid
  · cases valid
  · rename_i good
    simp only [not_or, UInt64.not_le] at good
    exact ⟨good.1, good.2.1, good.2.2.1⟩

variable {intent : DurablePluginIntent}

theorem outcome_valid {answers : Digest → Prop} (nonzero : ∀ digest, answers digest → digest ≠ zeroDigest)
    (sound : SoundIntent intent) {view : DynamicLeaseView} (shape : Outcome answers intent view) :
    validateLeaseView view = .ok () ∧ view.state ≠ .reconciliationRequired := by
  rcases shape with res | prev
  · obtain ⟨gen, _, order⟩ := intent_valid_parts intent sound.fields
    refine ⟨(lease_valid_iff view).mpr ⟨by rw [res.generation]; exact gen, ?_, ?_⟩, res.certain⟩
    · rcases res.digest with answer | direct | ⟨prev, found, same⟩
      · exact nonzero _ answer
      · exact direct
      · rw [same]
        exact ((lease_valid_iff prev).mp (sound.previous prev found)).2.1
    · rw [res.issuedAt, res.expiresAt]
      exact order
  · exact ⟨sound.previous view prev, sound.certain view prev⟩

theorem well_kept_same {store : Store} (after : Store) (same : after.entries = store.entries)
    (kept : WellKept store) : WellKept after := by
  obtain ⟨each, one⟩ := kept
  rw [← same] at each one
  exact ⟨each, one⟩

variable {store : Store}

theorem well_kept_erase {after : Store} {key : StorageKey} (erased : after.entries = store.entries.erase key)
    (kept : WellKept store) :
    WellKept after := by
  have before : ∀ (other : StorageKey) value, after.entries[other]? = some value → store.entries[other]? = some value := by
    intro other value found
    rw [erased, getElem?_erase] at found
    split at found
    · cases found
    · exact found
  refine ⟨fun other value found => kept.each other value (before other value found), fun a b presentA presentB => ?_⟩
  obtain ⟨_, foundA⟩ := Option.ne_none_iff_exists'.mp presentA
  obtain ⟨_, foundB⟩ := Option.ne_none_iff_exists'.mp presentB
  exact kept.one a b (by rw [before _ _ foundA]; simp) (by rw [before _ _ foundB]; simp)

theorem well_kept_lease {after : Store} {view : DynamicLeaseView} (valid : validateLeaseView view = .ok ())
    (certain : view.state ≠ .reconciliationRequired)
    (inserted : after.entries = store.entries.insert (leaseKey view.leaseId) (leaseBytes view))
    (kept : WellKept store) : WellKept after := by
  have intents : ∀ id, after.entries[intentKey id]? = store.entries[intentKey id]? := by
    intro id
    rw [inserted, lookup_insert, if_neg (keys_apart view.leaseId id)]
  refine ⟨fun key value found => ?_, fun a b presentA presentB => ?_⟩
  · rw [inserted, lookup_insert] at found
    split at found
    · rename_i same
      cases found
      exact .inl ⟨view, same.symm, rfl, valid, certain⟩
    · exact kept.each key value found
  · rw [intents] at presentA presentB
    exact kept.one a b presentA presentB

theorem well_kept_intent {after : Store} (sound : SoundIntent intent)
    (inserted : after.entries = store.entries.insert (intentKey intent.leaseId) (intentBytes intent))
    (kept : WellKept store)
    (alone : ∀ other, ¬StoredIntent store other) : WellKept after := by
  have only : ∀ id, after.entries[intentKey id]? ≠ none → id = intent.leaseId := by
    intro id present
    rw [inserted, lookup_insert] at present
    split at present
    · rename_i same
      exact (intent_key_injective same).symm
    · obtain ⟨value, found⟩ := Option.ne_none_iff_exists'.mp present
      obtain ⟨other, rfl, rfl, _⟩ := kept_intent store kept found
      exact absurd found (alone other)
  refine ⟨fun key value found => ?_, fun a b presentA presentB => (only a presentA).trans (only b presentB).symm⟩
  rw [inserted, lookup_insert] at found
  split at found
  · rename_i same
    cases found
    exact .inr ⟨intent, same.symm, rfl, sound⟩
  · exact kept.each key value found

def Fit (broker : DynamicSecretBroker) : Prop :=
  ∀ (id : Id) view, broker.leases[id]? = some view → view.leaseId = id ∧ (view.state = .active → validateLeaseView view = .ok ())

variable {broker : DynamicSecretBroker}

theorem fit_insert (after : DynamicSecretBroker) (fit : Fit broker) (view : DynamicLeaseView)
    (inserted : after.leases = broker.leases.insert view.leaseId view)
    (valid : view.state = .active → validateLeaseView view = .ok ()) :
    Fit after := by
  intro id other found
  rw [inserted, lookup_insert] at found
  split at found
  · rename_i same
    cases found
    exact ⟨same, valid⟩
  · exact fit id other found

theorem fit_doubt (broker : DynamicSecretBroker) (fit : Fit broker) (leaseId : Id) :
    Fit (broker.doubtLease leaseId) := by
  intro id view found
  rw [doubt_lease_lookup] at found
  split at found
  · obtain ⟨old, stored, rfl⟩ := Option.map_eq_some_iff.mp found
    exact ⟨(fit id old stored).1, nofun⟩
  · exact fit id view found

structure Sane (m : Machine) : Prop where
  kept : WellKept m.store
  fit : Fit m.broker
  pending : ∀ intent, m.pending = some intent → SoundIntent intent
  stored : m.store.unresolved = false → ∀ intent, StoredIntent m.store intent → m.pending = some intent
  quiet : m.broker.entered = []

theorem aged_sane {m : Machine} (aged : Aged m.broker broker) (sane : Sane m) : Sane { m with broker := broker } := by
  refine ⟨sane.kept, ?_, sane.pending, sane.stored, aged.entered.trans sane.quiet⟩
  intro id view found
  obtain ⟨old, before, name, same⟩ := aged.leases id view found
  have fit := sane.fit id old before
  refine ⟨name.trans fit.1, fun active => ?_⟩
  have isOld := same active
  subst isOld
  exact fit.2 active

variable (env : Env) (cap : Nat) (ctx : PluginMutationContext) (plan : Store → DurablePluginIntent → Prop) (answers : Digest → Prop)
  (sound : ∀ store intent, plan store intent → SoundIntent intent) (nonzero : ∀ digest, answers digest → digest ≠ zeroDigest)

theorem sane_alone (m : Machine) (sane : Sane m) (idle : m.pending = none) (resolved : m.store.unresolved = false)
    (intent : DurablePluginIntent) : ¬StoredIntent m.store intent := by
  intro stored
  have pending := sane.stored resolved intent stored
  rw [idle] at pending
  cases pending

theorem intent_put_kept {m : Machine} (sane : Sane m) (idle : m.pending = none) (isSound : SoundIntent intent)
    {value : Secret} (encoded : value.bytes = intentBytes intent) {res : Except ServiceError MutationOutcome}
    (executed : Executed env cap (putRequest ctx (str "intent") (intentResource intent.leaseId) intent value) m.store
      res store) :
    WellKept store := by
  rcases executed_entries executed with same | ⟨applied, resolved⟩
  · exact well_kept_same store same sane.kept
  · have inserted : store.entries = m.store.entries.insert (intentKey intent.leaseId) value.bytes := applied
    rw [encoded] at inserted
    exact well_kept_intent isSound inserted sane.kept (sane_alone m sane idle resolved)

theorem lease_write_stored {m : Machine} (sane : Sane m) {store : Store}
    (resolved : store.unresolved = false → m.store.unresolved = false)
    (intents : ∀ id, store.entries[intentKey id]? = m.store.entries[intentKey id]?) :
    store.unresolved = false → ∀ intent, StoredIntent store intent → m.pending = some intent := by
  intro now intent stored
  refine sane.stored (resolved now) intent ?_
  unfold StoredIntent at stored ⊢
  rw [← intents]
  exact stored

theorem failed_write_stored {m : Machine} (sane : Sane m) {store : Store} {req : Request} {flaw : ServiceError}
    (executed : Executed env cap req m.store (.error flaw) store) (resolved : store.unresolved = false)
    (intent : DurablePluginIntent) (stored : StoredIntent store intent) : m.pending = some intent := by
  rcases executed_error env cap _ _ _ _ executed flaw rfl with same | poisoned
  · rw [same] at resolved stored
    exact sane.stored resolved intent stored
  · cases resolved.symm.trans poisoned

include sound nonzero

theorem move_sane (writes : Nat) (m reached : Machine) (move : Move env cap ctx plan answers writes m reached)
    (sane : Sane m) : Sane reached := by
  cases move with
  | looks _ _ aged =>
    exact aged_sane aged sane
  | publishes m intent value outcome store _ planned idle encoded executed =>
    have resolved := (executed_resolved executed outcome rfl).1
    have alone := sane_alone m sane idle resolved
    refine ⟨intent_put_kept env cap ctx sane idle (sound m.store intent planned) encoded executed, sane.fit, ?_, ?_, sane.quiet⟩
    · intro other same
      cases same
      exact sound m.store intent planned
    · intro _ other stored
      rcases executed_entries executed with same | ⟨applied, _⟩
      · unfold StoredIntent at stored
        change store.entries[_]? = _ at stored
        rw [same] at stored
        exact absurd stored (alone other)
      · have inserted : store.entries = m.store.entries.insert (intentKey intent.leaseId) value.bytes := applied
        unfold StoredIntent at stored
        change store.entries[_]? = _ at stored
        rw [inserted, lookup_insert, encoded] at stored
        split at stored
        · exact congrArg some (intent_bytes_injective _ _ (Option.some.inj stored))
        · exact absurd stored (alone other)
  | misses m intent _ _ store _ planned idle encoded executed =>
    exact ⟨intent_put_kept env cap ctx sane idle (sound m.store intent planned) encoded executed, sane.fit,
      sane.pending, failed_write_stored env cap sane executed, sane.quiet⟩
  | enters m intent res broker pending _ _ effected =>
    refine ⟨sane.kept, ?_, sane.pending, sane.stored, rfl⟩
    cases res with
    | ok view =>
      obtain ⟨shape, inserted, _⟩ := effected.done view rfl
      have valid := (outcome_valid nonzero (sane.pending intent pending) (.inl shape)).1
      refine fit_insert _ sane.fit view ?_ (fun _ => valid)
      rw [shape.leaseId]
      exact inserted
    | error flaw =>
      rcases effected.failed flaw rfl with same | ⟨view, found, inserted⟩
      · intro id view found
        change broker.leases[id]? = some view at found
        rw [same] at found
        exact sane.fit id view found
      · refine fit_insert _ sane.fit { view with state := .reconciliationRequired } ?_ nofun
        have name : view.leaseId = intent.leaseId := (sane.fit intent.leaseId view found).1
        change broker.leases = m.broker.leases.insert view.leaseId _
        rw [inserted, ← name]
  | fences m leaseId =>
    exact ⟨sane.kept, fit_doubt m.broker.fenced sane.fit leaseId, sane.pending, sane.stored, (doubt_lease_entered _ _).trans sane.quiet⟩
  | leases m intent view value _ store _ pending shape encoded executed =>
    obtain ⟨valid, certain⟩ := outcome_valid nonzero (sane.pending intent pending) shape
    have before := executed_before executed
    rcases executed_entries executed with same | ⟨applied, _⟩
    · exact ⟨well_kept_same store same sane.kept, sane.fit, sane.pending, lease_write_stored sane before (fun id => by rw [same]), sane.quiet⟩
    · have inserted : store.entries = m.store.entries.insert (leaseKey view.leaseId) value.bytes := applied
      rw [encoded] at inserted
      exact ⟨well_kept_lease valid certain inserted sane.kept, sane.fit, sane.pending,
        lease_write_stored sane before (fun id => by rw [inserted, lookup_insert, if_neg (keys_apart view.leaseId id)]), sane.quiet⟩
  | drops m intent _ store _ _ executed =>
    have before := executed_before executed
    rcases executed_entries executed with same | ⟨applied, _⟩
    · exact ⟨well_kept_same store same sane.kept, sane.fit, sane.pending, lease_write_stored sane before (fun id => by rw [same]), sane.quiet⟩
    · have erased : store.entries = m.store.entries.erase (leaseKey intent.leaseId) := applied
      refine ⟨well_kept_erase erased sane.kept, sane.fit, sane.pending, lease_write_stored sane before (fun id => ?_), sane.quiet⟩
      rw [erased, getElem?_erase, if_neg]
      rw [LawfulEqCmp.compare_eq_iff_eq]
      exact keys_apart intent.leaseId id
  | clears m intent outcome store fates broker pending fresh keeps executed =>
    have resolved := (executed_resolved executed outcome rfl).1
    have erased : store.entries = m.store.entries.erase (intentKey intent.leaseId) := executed_ok env cap _ _ _ _ executed outcome rfl fresh
    refine ⟨well_kept_erase erased sane.kept, ?_, fun _ wrong => (nomatch wrong), ?_, ?_⟩
    · rcases keeps with rfl | ⟨settled, shapes, rfl⟩
      · exact sane.fit
      · cases settled with
        | none =>
          intro id view found
          change (m.broker.leases.erase intent.leaseId)[id]? = some view at found
          rw [getElem?_erase] at found
          split at found
          · cases found
          · exact sane.fit id view found
        | some view =>
          have valid := (outcome_valid nonzero (sane.pending intent pending) (shapes view rfl)).1
          exact fit_insert _ sane.fit view rfl (fun _ => valid)
    · intro _ other stored
      unfold StoredIntent at stored
      change store.entries[_]? = _ at stored
      rw [erased, getElem?_erase] at stored
      split at stored
      · cases stored
      · rename_i differ
        have same := sane.stored resolved other stored
        rw [pending] at same
        cases same
        exact absurd ReflCmp.compare_self differ
    · rcases keeps with rfl | ⟨settled, _, rfl⟩
      · exact sane.quiet
      · cases settled <;> exact sane.quiet
  | lingers m intent _ store _ _ executed =>
    refine ⟨?_, sane.fit, sane.pending, failed_write_stored env cap sane executed, sane.quiet⟩
    rcases executed_entries executed with same | ⟨applied, _⟩
    · exact well_kept_same store same sane.kept
    · have erased : store.entries = m.store.entries.erase (intentKey intent.leaseId) := applied
      exact well_kept_erase erased sane.kept

end HeptaBao.Plugin
