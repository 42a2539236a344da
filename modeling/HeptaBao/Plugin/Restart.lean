import HeptaBao.Plugin.StandIn
import HeptaBao.Plugin.Upkeep

namespace HeptaBao.Plugin

open Wire Std Durable Domain Exec

-- No recorded digest, of a request or of an answer, is all zero.
structure Digested (env : Env) (runner : SandboxRunner) (live : Live) (call : Call) : Prop where
  request : ∀ intent, Planned env live.broker call intent → intent.requestDigest ≠ zeroDigest
  answers : ∀ digest, Answered env runner digest → digest ≠ zeroDigest

def Timely (live : Live) : Call → Prop
  | .renew leaseId now ttl _ _ => ∀ view, live.broker.leases[leaseId]? = some view → view.issuedAt.toNat < now.toNat + ttl.toNat
  | _ => True

-- The request id under which a call clears its intent was not used before.
def ClearsFresh (env : Env) (store : Store) (live : Live) (ctx : PluginMutationContext) (call : Call) : Prop :=
  ∀ intent, Addressed env live call intent → store.ledger[storageRequestKey ctx (str "clear") intent]? = none

variable {env : Env} {runner : SandboxRunner}

theorem planned_sound {live : Live} {call : Call} (fit : Fit live.broker)
    (digested : Digested env runner live call) (timely : Timely live call) {intent : DurablePluginIntent}
    (planned : Planned env live.broker call intent) : SoundIntent intent := by
  have digest := digested.request intent planned
  have raisedNonzero : ∀ gen next : UInt64, nextGeneration gen = some next → next ≠ 0 := by
    rintro gen next raised rfl
    have value := next_generation_some gen 0 raised
    simp at value
  cases planned with
  | issue spec _ _ proposed positive _ added =>
    have sum := tick_add added
    have ttl : spec.ttl.toNat ≠ 0 := fun zero => positive (UInt64.toNat_inj.mp zero)
    have order : ¬proposed ≤ spec.issuedAt := by
      rw [UInt64.le_iff_toNat_le]
      omega
    refine ⟨⟨by simp [issueIntent], by simp [issueIntent]⟩, ?_, fun _ wrong => (nomatch wrong), nofun⟩
    unfold validateIntent
    rw [if_neg]
    · rfl
    · simp only [issueIntent] at digest ⊢
      simp [digest, order]
  | renew leaseId _ _ req _ prev gen proposed found active raised added =>
    obtain ⟨name, valid⟩ := fit leaseId prev found
    have sum := tick_add added
    have later := timely prev found
    have order : ¬proposed ≤ prev.issuedAt := by
      rw [UInt64.le_iff_toNat_le]
      omega
    have isView : ∀ view, (nextIntent env .renew prev leaseId gen proposed req).previous = some view → view = prev := by
      intro view same
      cases same
      rfl
    refine ⟨⟨by simp [nextIntent], by simp [nextIntent]⟩, ?_, fun view same => isView view same ▸ valid active, ?_⟩
    · unfold validateIntent
      rw [if_neg]
      · simp [nextIntent, check, continuesPrevious, name, raised]
      · simp only [nextIntent] at digest ⊢
        simp [digest, order, raisedNonzero _ _ raised]
    · intro view same
      rw [isView view same, active]
      decide
  | revoke leaseId req _ prev gen found active raised =>
    obtain ⟨name, valid⟩ := fit leaseId prev found
    obtain ⟨_, _, order⟩ := (lease_valid_iff prev).mp (valid active)
    have isView : ∀ view, (nextIntent env .revoke prev leaseId gen prev.expiresAt req).previous = some view → view = prev := by
      intro view same
      cases same
      rfl
    refine ⟨⟨by simp [nextIntent], by simp [nextIntent]⟩, ?_, fun view same => isView view same ▸ valid active, ?_⟩
    · unfold validateIntent
      rw [if_neg]
      · simp [nextIntent, check, continuesPrevious, name, raised]
      · simp only [nextIntent] at digest ⊢
        simp [digest, UInt64.not_le.mpr order, raisedNonzero _ _ raised]
    · intro view same
      rw [isView view same, active]
      decide

-- The condition under which every call keeps the store openable.
def Restartable (env : Env) (world : World) : Event → Prop
  | .call ctx call runner _ => ∀ live, world.live = some live →
      ClearsFresh env world.store live ctx call ∧ Timely live call ∧ Digested env runner live call
  | _ => True

def Live.machine (live : Live) (store : Store) (fates : List Fate) (moments : List Moment) : Machine :=
  ⟨store, live.broker, live.pending, fates, moments⟩

structure Tidy (world : World) : Prop where
  kept : WellKept world.store
  live : ∀ live, world.live = some live → Sane (live.machine world.store [] [])

theorem sane_machine (live : Live) (store : Store) (fates fates' : List Fate) (moments moments' : List Moment)
    (sane : Sane (live.machine store fates moments)) : Sane (live.machine store fates' moments') :=
  ⟨sane.kept, sane.fit, sane.pending, sane.stored, sane.quiet⟩

theorem fit_named (broker : DynamicSecretBroker) (fit : Fit broker) : Named broker :=
  fun id view found => (fit id view found).1

variable {manifest : PluginManifest}

theorem reopened_sane {store : Store} (kept : WellKept store) {live : Live}
    (reopens : Reopens manifest store live) : Sane (live.machine store [] []) := by
  refine ⟨kept, ?_, ?_, fun _ intent stored => (reopens.pending intent).mpr stored, reopens.quiet⟩
  · intro id view found
    obtain ⟨stored, isStored, isId, rfl⟩ := (reopens.leases id view).mp found
    obtain ⟨other, _, bytes, valid, _⟩ := kept_lease store kept isStored
    have same := lease_bytes_injective _ _ bytes
    subst same
    split
    · exact ⟨isId, nofun⟩
    · exact ⟨isId, fun _ => valid⟩
  · intro intent pending
    have stored := (reopens.pending intent).mp pending
    obtain ⟨_, _, bytes, sound⟩ := kept_intent store kept stored
    rw [intent_bytes_injective _ _ bytes]
    exact sound

theorem perform_sane (cap : Nat) {ctx : PluginMutationContext} {call : Call} {live : Live}
    {store : Store} {fates : List Fate} {moments : List Moment} (sane : Sane (live.machine store fates moments))
    (fresh : ClearsFresh env store live ctx call) (timely : Timely live call)
    (digested : Digested env runner live call) :
    Sane (perform env cap ctx runner call (live.machine store fates moments)).2 := by
  have moves := perform_moves env cap ctx runner call (live.machine store fates moments) (fit_named _ sane.fit) sane.quiet fresh
  exact moves_invariant Sane (move_sane env cap ctx _ _
    (fun _ intent planned => planned_sound sane.fit digested timely planned.2.2) digested.answers) _ moves sane

theorem step_tidy (cap : Nat) (manifest : PluginManifest) {world : World} {event : Event}
    (careful : Restartable env world event) (tidy : Tidy world) : Tidy (step env cap manifest world event) := by
  cases event with
  | crash => exact ⟨tidy.kept, nofun⟩
  | reopen =>
    have kept : WellKept world.store.reopened := well_kept_same _ (by rfl) tidy.kept
    refine ⟨kept, fun live found => ?_⟩
    obtain ⟨other, reopens⟩ := reopen_kept manifest kept rfl
    change (reopen manifest world.store.reopened).toOption = some live at found
    rw [reopens.opened] at found
    cases found
    exact reopened_sane kept reopens
  | view leaseId now =>
    cases found : world.live with
    | none =>
      simp only [step, found]
      exact tidy
    | some live =>
      simp only [step, found]
      refine ⟨tidy.kept, fun other same => ?_⟩
      cases same
      have aged := (view_ends leaseId now live.broker).1
      exact aged_sane aged (tidy.live live found)
  | call _ _ _ fates =>
    cases found : world.live with
    | none =>
      simp only [step, found]
      exact tidy
    | some live =>
      obtain ⟨fresh, timely, digested⟩ := careful live found
      have sane := perform_sane cap
        (sane_machine live world.store [] fates [] world.moments (tidy.live live found)) fresh timely digested
      simp only [step, found]
      refine ⟨sane.kept, fun other same => ?_⟩
      cases same
      exact ⟨sane.kept, sane.fit, sane.pending, sane.stored, sane.quiet⟩

theorem created_tidy (manifest : PluginManifest) : Tidy (created manifest) := by
  have nothing : ∀ (key : StorageKey), (created manifest).store.entries[key]? = none := fun key => by
    change (∅ : Entries)[key]? = none
    simp
  have kept : WellKept (created manifest).store := by
    refine ⟨fun key value found => ?_, fun a b present => absurd (nothing _) present⟩
    rw [nothing] at found
    cases found
  refine ⟨kept, fun live same => ?_⟩
  cases same
  refine ⟨kept, fun id view found => ?_, fun _ wrong => (nomatch wrong), fun _ intent stored => ?_, rfl⟩
  · change (∅ : ExtTreeMap Id DynamicLeaseView)[id]? = some view at found
    simp at found
  · change (created manifest).store.entries[intentKey intent.leaseId]? = _ at stored
    rw [nothing] at stored
    cases stored

theorem run_tidy {cap : Nat} {events : List Event}
    (careful : Along (step env cap manifest) (Restartable env) (created manifest) events) :
    Tidy (run (step env cap manifest) (created manifest) events) :=
  run_invariant (fun _ _ allowed => step_tidy cap manifest allowed) _ (created_tidy manifest) careful

/-- What such a run leaves is read back: the published leases, and the intent if any. -/
theorem plugin_state_reopens (env : Env) (cap : Nat) (manifest : PluginManifest) (events : List Event)
    (careful : Along (step env cap manifest) (Restartable env) (created manifest) events) :
    ∃ live, Reopens manifest (run (step env cap manifest) (created manifest) events).store.reopened live :=
  reopen_kept manifest (well_kept_same _ (by rfl) (run_tidy careful).kept) rfl

def interruptedIssue : Event :=
  .call (contextR requestA) (.issue (specL 100) (plainSecret 1) []) (answering (.ok (plainSecret 2))) [.committed [], .unknown [] true]

theorem plain_digest (byte : UInt8) (small : byte < 4) :
    sha256Digest (PluginOperation.tag .issue :: (big 8 1 ++ [byte])) ≠ zeroDigest ∧
    sha256Digest [byte] ≠ zeroDigest := by
  have each : ∀ value : Fin 4, sha256Digest (PluginOperation.tag .issue :: (big 8 1 ++ [UInt8.ofNat value])) ≠ zeroDigest ∧
      sha256Digest [UInt8.ofNat value] ≠ zeroDigest := by decide +kernel
  have value := each ⟨byte.toNat, by simpa [UInt8.lt_iff_toNat_lt] using small⟩
  simpa using value

theorem plugin_state_reopens_interrupted :
    ∃ live, Reopens plainManifest (worldAfter 8 [interruptedIssue, .crash]).store.reopened live := by
  refine plugin_state_reopens testEnv 8 plainManifest [interruptedIssue, .crash] ⟨?_, trivial, trivial⟩
  intro live found
  cases found
  refine ⟨?_, trivial, ?_, ?_⟩
  · intro intent _
    change (∅ : Ledger)[_]? = none
    simp
  · intro intent planned
    cases planned
    exact (plain_digest 1 (by decide)).1
  · rintro digest ⟨_, _, _, _, response, answer, rfl⟩
    cases answer
    exact (plain_digest 2 (by decide)).2

-- A renewal before the lease's start is accepted, but its intent cannot be decoded.
def earlyRenewal : List Event := [
  .call (contextR requestA) (.issue (specL 100) (plainSecret 1) []) (answering (.ok (plainSecret 2))) [],
  .call (contextR requestB) (.renew leaseL 0 5 (plainSecret 3) []) (answering (.error .outcomeUnknownAfterEntry)) [],
  .crash]

set_option maxRecDepth 100000 in
theorem early_renewal_unopenable : (reopen plainManifest
    (worldAfter 8 (earlyRenewal.take 1)).store.reopened).toOption.isSome = true ∧
    (reopen plainManifest (worldAfter 8 earlyRenewal).store.reopened).toOption.isNone = true := by decide +kernel

end HeptaBao.Plugin
