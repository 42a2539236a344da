import HeptaBao.Plugin.Restart

namespace HeptaBao.Plugin

open Wire Std Durable Domain Exec List

-- While the runner ran, its intent was stored, and the next process reports it.
def Covered (env : Env) (manifest : PluginManifest) (moment : Moment) : Prop :=
  ∃ intent, Matches env intent moment.entry ∧ StoredIntent moment.store intent ∧
    ∃ live, reopen manifest moment.store.reopened = .ok live ∧ live.pending = some intent

structure Guarded (env : Env) (manifest : PluginManifest) (m : Machine) : Prop where
  sane : Sane m
  held : m.store.unresolved = false → ∀ intent, m.pending = some intent → StoredIntent m.store intent
  moments : ∀ moment ∈ m.moments, Covered env manifest moment

section

variable (env : Env) (cap : Nat) (ctx : PluginMutationContext) (plan : Store → DurablePluginIntent → Prop)
  (answers : Digest → Prop) (manifest : PluginManifest)

theorem stored_covers {store : Store} (kept : WellKept store) {intent : DurablePluginIntent}
    (stored : StoredIntent store intent)
    {entry : Entered} (forIntent : Matches env intent entry) : Covered env manifest ⟨entry, store⟩ := by
  obtain ⟨live, reopens⟩ := reopen_kept manifest (well_kept_same store.reopened (by rfl) kept) rfl
  exact ⟨intent, forIntent, stored, live, reopens.opened, (reopens.pending intent).mpr stored⟩

theorem lease_write_held (m : Machine) (held : m.store.unresolved = false → ∀ intent, m.pending = some intent →
    StoredIntent m.store intent)
    (store : Store) (before : store.unresolved = false → m.store.unresolved = false)
    (intents : ∀ id, store.entries[intentKey id]? = m.store.entries[intentKey id]?)
    (resolved : store.unresolved = false)
    (intent : DurablePluginIntent) (pending : m.pending = some intent) : StoredIntent store intent := by
  unfold StoredIntent
  rw [intents]
  exact held (before resolved) intent pending

variable {env cap} in
theorem executed_lease_intents {req : Request} (id : Id) {store after : Store}
    {res : Except ServiceError MutationOutcome}
    (touches : ∀ entries : Entries, ∀ other, (req.apply entries)[intentKey other]? = entries[intentKey other]?)
    (executed : Executed env cap req store res after) : after.entries[intentKey id]? =
      store.entries[intentKey id]? := by
  rcases executed_entries executed with same | ⟨applied, _⟩
  · rw [same]
  · rw [applied, touches]

theorem put_lease_intents (intent : DurablePluginIntent) (leaseId : Id) (value : Secret) (entries : Entries)
    (other : Id) :
    ((putRequest ctx (str "lease") (leaseResource leaseId) intent value).apply entries)[intentKey other]? =
      entries[intentKey other]? := by
  change (entries.insert (leaseKey leaseId) value.bytes)[intentKey other]? = _
  rw [lookup_insert, if_neg (keys_apart leaseId other)]

theorem drop_lease_intents (intent : DurablePluginIntent) (leaseId : Id) (entries : Entries) (other : Id) :
    ((deleteRequest ctx (str "drop-lease") (leaseResource leaseId) intent).apply entries)[intentKey other]? =
      entries[intentKey other]? := by
  change (entries.erase (leaseKey leaseId))[intentKey other]? = _
  rw [ExtTreeMap.getElem?_erase, if_neg]
  rw [LawfulEqCmp.compare_eq_iff_eq]
  exact keys_apart leaseId other

theorem move_guarded (sound : ∀ store intent, plan store intent → SoundIntent intent)
    (nonzero : ∀ digest, answers digest → digest ≠ zeroDigest)
    (fresh : ∀ store intent, plan store intent → store.ledger[storageRequestKey ctx (str "intent") intent]? = none)
    (writes : Nat) (m reached : Machine) (move : Move env cap ctx plan answers writes m reached)
    (guarded : Guarded env manifest m) : Guarded env manifest reached := by
  have sane := move_sane env cap ctx plan answers sound nonzero writes m reached move guarded.sane
  cases move with
  | looks | fences => exact ⟨sane, guarded.held, guarded.moments⟩
  | publishes m intent value outcome store _ planned _ encoded executed =>
    refine ⟨sane, fun _ other pending => ?_, guarded.moments⟩
    cases pending
    have applied := executed_ok env cap _ _ _ _ executed outcome rfl (fresh m.store intent planned)
    have inserted : store.entries = m.store.entries.insert (intentKey intent.leaseId) value.bytes := applied
    change store.entries[intentKey intent.leaseId]? = some (intentBytes intent)
    rw [inserted, lookup_insert, if_pos rfl, encoded]
  | misses m _ _ _ _ _ _ idle =>
    refine ⟨sane, fun _ other pending => ?_, guarded.moments⟩
    change m.pending = some other at pending
    rw [idle] at pending
    cases pending
  | enters m intent _ _ pending resolved quiet effected =>
    refine ⟨sane, guarded.held, fun moment listed => ?_⟩
    rcases mem_append.mp listed with earlier | here
    · exact guarded.moments moment earlier
    · obtain ⟨entry, entered, rfl⟩ := mem_map.mp here
      have stored := guarded.held resolved intent pending
      rcases effected.entered with nothing | ⟨only, forIntent, grown⟩
      · rw [nothing, quiet] at entered
        cases entered
      · rw [grown, quiet, nil_append, mem_singleton] at entered
        subst entered
        exact stored_covers env manifest guarded.sane.kept stored forIntent
  | leases m intent view value _ store _ _ _ _ executed =>
    exact ⟨sane, lease_write_held m guarded.held store (executed_before executed)
      (fun id => executed_lease_intents id (put_lease_intents ctx intent view.leaseId value) executed),
      guarded.moments⟩
  | drops m intent _ store _ _ executed =>
    exact ⟨sane, lease_write_held m guarded.held store (executed_before executed)
      (fun id => executed_lease_intents id (drop_lease_intents ctx intent intent.leaseId) executed),
      guarded.moments⟩
  | clears =>
    exact ⟨sane, fun _ _ wrong => (nomatch wrong), guarded.moments⟩
  | lingers _ _ flaw store _ _ executed =>
    refine ⟨sane, fun resolved other same => ?_, guarded.moments⟩
    change store.unresolved = false at resolved
    change StoredIntent store other
    rcases executed_error env cap _ _ _ _ executed flaw rfl with unchanged | poisoned
    · rw [unchanged] at resolved ⊢
      exact guarded.held resolved other same
    · rw [poisoned] at resolved
      cases resolved

end

-- The request id under which a call publishes its intent was not used before.
def PublishesFresh (env : Env) (store : Store) (live : Live) (ctx : PluginMutationContext) (call : Call) : Prop :=
  ∀ intent, Planned env live.broker call intent → store.ledger[storageRequestKey ctx (str "intent") intent]? = none

def Accountable (env : Env) (world : World) (event : Event) : Prop :=
  Restartable env world event ∧ match event with
    | .call ctx call _ _ => ∀ live, world.live = some live → PublishesFresh env world.store live ctx call
    | _ => True

structure Watched (env : Env) (manifest : PluginManifest) (world : World) : Prop where
  tidy : Tidy world
  held : ∀ live, world.live = some live → world.store.unresolved = false → ∀ intent, live.pending = some intent →
    StoredIntent world.store intent
  moments : ∀ moment ∈ world.moments, Covered env manifest moment

theorem step_watched {env : Env} (cap : Nat) (manifest : PluginManifest) {world : World} {event : Event}
    (careful : Accountable env world event) (watched : Watched env manifest world) :
      Watched env manifest (step env cap manifest world event) := by
  have tidy := step_tidy cap manifest careful.1 watched.tidy
  cases event with
  | crash => exact ⟨tidy, fun _ wrong => (nomatch wrong), watched.moments⟩
  | reopen =>
    refine ⟨tidy, fun live found _ intent pending => ?_, watched.moments⟩
    obtain ⟨other, reopens⟩ := reopen_kept manifest (well_kept_same world.store.reopened (by rfl) watched.tidy.kept) rfl
    change (reopen manifest world.store.reopened).toOption = some live at found
    rw [reopens.opened] at found
    cases found
    exact (reopens.pending intent).mp pending
  | view =>
    cases found : world.live with
    | none =>
      simp only [step, found] at tidy ⊢
      exact ⟨tidy, fun _ wrong => (by rw [found] at wrong; cases wrong), watched.moments⟩
    | some live =>
      simp only [step, found] at tidy ⊢
      refine ⟨tidy, fun other same => ?_, watched.moments⟩
      cases same
      exact watched.held live found
  | call ctx call runner fates =>
    cases found : world.live with
    | none =>
      simp only [step, found] at tidy ⊢
      exact ⟨tidy, fun _ wrong => (by rw [found] at wrong; cases wrong), watched.moments⟩
    | some live =>
      obtain ⟨clears, timely, digested⟩ := careful.1 live found
      have publishes := careful.2 live found
      have sane := sane_machine live world.store [] fates [] world.moments (watched.tidy.live live found)
      have start : Guarded env manifest (live.machine world.store fates world.moments) := ⟨sane, watched.held live found, watched.moments⟩
      have moves := perform_moves env cap ctx runner call (live.machine world.store fates world.moments)
        (fit_named _ sane.fit) sane.quiet clears
      have reached := moves_invariant (Guarded env manifest) (move_guarded env cap ctx _ _ manifest
        (fun _ intent planned => planned_sound sane.fit digested timely planned.2.2) digested.answers
        (fun store intent planned => by rw [planned.1]; exact publishes intent planned.2.2)) _ moves start
      simp only [step, found] at tidy ⊢
      refine ⟨tidy, fun other same => ?_, reached.moments⟩
      cases same
      exact reached.held

/-- In a run of such calls the runner only ever runs under a stored intent. -/
theorem effects_under_intent (env : Env) (cap : Nat) (manifest : PluginManifest) (events : List Event)
    (careful : Along (step env cap manifest) (Accountable env) (created manifest) events) :
    ∀ moment ∈ (run (step env cap manifest) (created manifest) events).moments, Covered env manifest moment := by
  have start : Watched env manifest (created manifest) := by
    refine ⟨created_tidy manifest, fun live same _ intent pending => ?_, nofun⟩
    cases same
    cases pending
  exact (run_invariant (fun world event allowed => step_watched cap manifest allowed) _ start
    careful).moments

set_option maxRecDepth 100000 in
theorem effects_under_intent_interrupted : (worldAfter 8 [interruptedIssue, .crash]).moments.length = 1 ∧
    ∀ moment ∈ (worldAfter 8 [interruptedIssue, .crash]).moments, Covered testEnv plainManifest moment := by
  refine ⟨by decide +kernel, effects_under_intent testEnv 8 plainManifest [interruptedIssue, .crash] ⟨⟨?_, ?_⟩, ⟨trivial, trivial⟩, trivial⟩⟩
  · intro live found
    cases found
    refine ⟨?_, trivial, ?_, ?_⟩
    · intro intent _
      change (∅ : Ledger)[_]? = none
      simp
    · intro intent planned
      cases planned
      exact (plain_digest 1 (by decide)).1
    · rintro digest ⟨_, _, _, _, response, answer, rfl⟩
      cases answer
      exact (plain_digest 2 (by decide)).2
  · intro live found intent _
    change (∅ : Ledger)[_]? = none
    simp

-- A retry under the id of a call that never entered: the intent's put is a duplicate.
def retriedIssue : List Event := [
  .call (contextR requestA) (.issue (specL 100) (plainSecret 1) []) (answering (.error .beforeEntry)) [],
  .call (contextR requestA) (.issue (specL 100) (plainSecret 1) []) (answering (.error .outcomeUnknownAfterEntry)) []]

set_option maxRecDepth 100000 in
theorem retried_issue_uncovered : (worldAfter 8 retriedIssue).moments.map (fun moment =>
    (moment.entry.operation, moment.store.entries[intentKey leaseL]?.isSome,
      (reopen plainManifest moment.store.reopened).toOption.map fun live => live.pending.isSome)) =
        [(.issue, true, some true), (.issue, false, some false)] := by decide +kernel

end HeptaBao.Plugin
