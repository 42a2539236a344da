import HeptaBao.Durable.Mixture
import HeptaBao.Durable.TestBarrier

namespace HeptaBao.Durable

open Wire Std Exec Action List

def Committed.swap (state : Committed) (entries : Entries) : Committed :=
  ⟨{ state.snapshot with entries := entries }, state.ledger⟩

theorem settled_swap {env : Env} {inputs : List Bytes} {state : Committed} {events : List JournalEvent}
    (settled : Settled env inputs state events) {entries : Entries}
    (entriesOk : EntriesOk entries state.snapshot.generation) :
    Settled env inputs (state.swap entries) events := by
  induction settled with
  | fresh =>
    have empty : entries = ∅ := ExtTreeMap.eq_empty_iff_size_eq_zero.mpr (Nat.le_zero.mp entriesOk.size)
    rw [empty]
    exact .fresh
  | checkpoint _ checkpoint valid taken =>
    exact .checkpoint _ checkpoint ⟨valid.ledger, entriesOk, valid.bounded, valid.frontier, valid.issued⟩ taken
  | commit state events mark _ before legal =>
    exact .commit state events mark entries before legal entriesOk
  | abort _ events mark _ legal ih =>
    refine .abort _ events mark (ih entriesOk) ?_
    exact ⟨legal.key, legal.digest, legal.fresh, legal.generation, legal.bounded, legal.issued, legal.room⟩

def Service.shows (svc : Service) (snap : Snapshot) (ledger : Ledger) : Prop :=
  svc.snapshot.entries = snap.entries ∧ svc.snapshot.generation = snap.generation ∧ svc.ledger = ledger

-- A backup that differs from the live state and yet fits its journal.
def Mixable (svc : Service) (restored : BackupComponents) : Prop :=
  restored.snapshot.generation = svc.snapshot.generation ∧ restored.snapshot.lastCommit = svc.snapshot.lastCommit ∧
    restored.snapshot.entries ≠ svc.snapshot.entries ∧ restored.ledger ≠ svc.ledger

section

variable (env : Env) (inputs : List Bytes) (laws : BarrierLaws env) (free : CollisionFree env inputs) (cap : Nat)
  (validCap : validateCapacity cap = .ok ()) (state : Committed) (events : List JournalEvent) (svc : Service) (disk : Disk)
  (live : Live env inputs cap state events svc disk) (other : Committed) (bundle : Bundle) (backup : Bytes)
  (exported : BackupOf env inputs cap other bundle backup)

include exported

variable {env inputs cap state events disk other bundle backup} in
theorem written_on_disk {body : Bytes} (stored : OnDisk env ⟨state.snapshot, events, state.ledger⟩ body [] disk) :
    OnDisk env ⟨other.snapshot, events, state.ledger⟩ body [] (bundle.written disk 1) ∧
      OnDisk env ⟨other.snapshot, events, other.ledger⟩ body [] (bundle.written disk 2) := by
  have onDisk := backup_on_disk exported
  obtain ⟨_, snapshotWritten⟩ := onDisk.snapshot
  obtain ⟨_, ledgerWritten⟩ := onDisk.ledger
  have first := on_disk_snapshot env _ body [] disk other.snapshot _ bundle.snapshot stored snapshotWritten onDisk.snapshotFits
  exact ⟨first, on_disk_ledger env _ body [] _ other.ledger _ bundle.ledger first ledgerWritten onDisk.ledgerFits⟩

include live

-- Behind the first two, the ledger checks leave only the backup's own state.
theorem reopen_second (laws : BarrierLaws env) (validCap : validateCapacity cap = .ok ()) {plan : Plan} {nonce : Nat}
    {opened : Service}
    (succeeds : (reopen env cap (bundle.written disk 2) plan nonce).1 = .ok opened) :
      opened.shows other.snapshot other.ledger := by
  have valid := exported.valid
  obtain ⟨eventsOk, count⟩ := settled_events live.settled
  obtain ⟨body, stored⟩ := live.stored
  have onDisk := (written_on_disk exported stored).2
  have filesOk : FilesOk ⟨other.snapshot, events, other.ledger⟩ := ⟨committed_snapshot_ok valid, committed_records_ok valid,
      by rw [valid.ledger.size]; exact valid.bounded, eventsOk, count⟩
  have loads := load_on_disk laws validCap filesOk onDisk
  obtain ⟨replay, _, recovered⟩ := reopen_inversion loads succeeds
  have pending := replay_pending rfl (settled_no_intent live.settled)
    recovered.replayed
  have agreement := frontier_agreement pending recovered.accepted
  refine ⟨?_, ?_, ?_⟩
  · rw [recovered.snapshot]
    rfl
  · rw [recovered.snapshot]
    rfl
  · rw [recovered.ledger pending, agreement_ledger _ _ replay agreement valid.ledger.size]
    rfl

include free

theorem mixture_image (gen : other.snapshot.generation = state.snapshot.generation)
    (lastCommit : other.snapshot.lastCommit = state.snapshot.lastCommit) :
      Image env inputs cap (state.swap other.snapshot.entries)
      ⟨(state.swap other.snapshot.entries).snapshot, events, (state.swap other.snapshot.entries).ledger⟩
        (bundle.written disk 1) := by
  have valid := settled_ok free live.settled
  have entriesOk : EntriesOk other.snapshot.entries state.snapshot.generation := by
    rw [← gen]
    exact exported.valid.entries
  have settled := settled_swap live.settled entriesOk
  obtain ⟨body, stored⟩ := live.stored
  have onDisk := (written_on_disk exported stored).1
  have sameSnapshot : other.snapshot = (state.swap other.snapshot.entries).snapshot := by
    obtain ⟨⟨_, _, _⟩, _⟩ := other
    simp only at gen lastCommit
    simp only [Committed.swap, gen, lastCommit]
  rw [sameSnapshot] at onDisk
  exact ⟨.quiet _ events settled, ⟨body, [], onDisk, settled_room settled _ _ _⟩, on_disk_ledger_fits
      (settled_ok free settled) onDisk, live.within⟩

include laws validCap

theorem reopen_first {plan : Plan} {nonce : Nat} {opened : Service}
    (succeeds : (reopen env cap (bundle.written disk 1) plan nonce).1 = .ok opened) :
    other.snapshot.generation = state.snapshot.generation ∧ other.snapshot.lastCommit = state.snapshot.lastCommit ∧
      opened.shows other.snapshot state.ledger := by
  have valid := settled_ok free live.settled
  obtain ⟨eventsOk, count⟩ := settled_events live.settled
  obtain ⟨body, stored⟩ := live.stored
  have onDisk := (written_on_disk exported stored).1
  have filesOk : FilesOk ⟨other.snapshot, events, state.ledger⟩ := ⟨committed_snapshot_ok exported.valid, committed_records_ok valid,
      by rw [valid.ledger.size]; exact valid.bounded, eventsOk, count⟩
  have loads := load_on_disk laws validCap filesOk onDisk
  obtain ⟨replay, _, recovered⟩ := reopen_inversion loads succeeds
  obtain ⟨known, replayed, describes⟩ := settled_replays free live.settled
    (extends_self valid)
  have same : known = replay := Except.ok.inj (replayed.symm.trans recovered.replayed)
  subst same
  have agreement := frontier_agreement describes.pending recovered.accepted
  have gen : other.snapshot.generation = state.snapshot.generation := agreement.generation.trans describes.generation
  have lastCommit : other.snapshot.lastCommit = state.snapshot.lastCommit := agreement.lastCommit.trans describes.lastCommit
  refine ⟨gen, lastCommit, ?_, ?_, ?_⟩
  · rw [recovered.snapshot]
    rfl
  · rw [recovered.snapshot]
    rfl
  · rw [recovered.ledger describes.pending, describes.committed, records_of_markers]

variable {env inputs cap state events svc disk other bundle backup} in
theorem reopen_ends (plan : Plan) (nonce : Nat) (opened : Service) :
    ((reopen env cap disk plan nonce).1 = .ok opened → opened.shows state.snapshot state.ledger) ∧
      ((reopen env cap (bundle.written disk 3) plan nonce).1 = .ok opened →
        opened.shows other.snapshot other.ledger) := by
  have whole : ∀ (committed : Committed) (files : Files) (image : Disk), Image env inputs cap committed files image →
      (reopen env cap image plan nonce).1 = .ok opened → opened.shows committed.snapshot committed.ledger := by
    intro committed files image stands succeeds
    obtain ⟨_, _, _, _, reopened⟩ := reopen_recovers laws free plan nonce validCap stands
    have now := (reopened opened succeeds).live
    exact ⟨by rw [now.snapshot], by rw [now.snapshot], now.ledger⟩
  refine ⟨whole state _ disk (live_image free live), whole other ⟨other.snapshot, [.checkpoint bundle.checkpoint], other.ledger⟩ _ ?_⟩
  have settled := Settled.checkpoint other bundle.checkpoint exported.valid exported.taken
  have onDisk := backup_on_disk exported
  exact ⟨.quiet other _ settled, ⟨bundle.record, [], onDisk, settled_room settled _ _ _⟩, on_disk_ledger_fits exported.valid onDisk, exported.within⟩

variable {env inputs cap state events svc disk other bundle backup} in
theorem restore_mixes (allowRollback : Bool) (nonce : Nat) (resolved : svc.unresolved = false)
    (gen : other.snapshot.generation = state.snapshot.generation)
    (lastCommit : other.snapshot.lastCommit = state.snapshot.lastCommit) :
    ∃ opened, (reopen env cap (restoreBackup env backup allowRollback ⟨disk, some (1, 0), nonce, svc⟩).2.disk none
      0).1 =
      .ok opened ∧ opened.shows other.snapshot state.ledger := by
  have image := mixture_image env inputs free cap state events svc disk live other bundle backup exported gen lastCommit
  obtain ⟨_, _, _, succeeds, reopened⟩ := reopen_recovers laws free none 0 validCap image
  obtain ⟨opened, outcome⟩ := succeeds rfl
  have now := (reopened opened outcome).live
  have torn := restore_first_only env inputs laws cap other bundle backup exported allowRollback
    ⟨disk, some (1, 0), nonce, svc⟩ resolved live.retained rfl (by simp only [live.snapshot]; omega)
  refine ⟨opened, by rw [torn]; exact outcome, ?_, ?_, now.ledger⟩
  · rw [now.snapshot]
    rfl
  · rw [now.snapshot, gen]
    rfl

theorem restore_untorn_iff (allowRollback : Bool) (nonce : Nat) (resolved : svc.unresolved = false)
    (restored : BackupComponents)
    (decoded : decodeBackup env backup cap = .ok restored) : (∀ plan reopenPlan drawn opened,
      (reopen env cap (restoreBackup env backup allowRollback ⟨disk, plan, nonce, svc⟩).2.disk reopenPlan drawn).1 =
        .ok opened →
        opened.shows svc.snapshot svc.ledger ∨ opened.shows restored.snapshot restored.ledger) ↔
          ¬ Mixable svc restored := by
  rw [decode_backup_ok laws exported] at decoded
  cases decoded
  simp only [Mixable, live.snapshot, live.ledger]
  constructor
  · rintro safe ⟨gen, lastCommit, entries, ledger⟩
    obtain ⟨opened, outcome, mixed⟩ := restore_mixes laws free validCap live exported allowRollback nonce resolved gen lastCommit
    rcases safe (some (1, 0)) none 0 opened outcome with ⟨sameEntries, _, _⟩ | ⟨_, _, sameLedger⟩
    · exact entries (mixed.1.symm.trans sameEntries)
    · exact ledger (sameLedger.symm.trans mixed.2.2)
  · intro apart plan reopenPlan drawn opened succeeds
    have before := (reopen_ends laws free validCap live exported
      reopenPlan drawn opened).1
    have after := (reopen_ends laws free validCap live exported
      reopenPlan drawn opened).2
    have landed : ∀ count, (reopen env cap (bundle.written disk count) reopenPlan drawn).1 = .ok opened →
        opened.shows state.snapshot state.ledger ∨ opened.shows other.snapshot other.ledger := by
      intro count succeeds
      match count with
      | 0 => exact .inl (before succeeds)
      | 1 =>
        obtain ⟨gen, lastCommit, shown⟩ := reopen_first env inputs laws free cap validCap state events svc disk live
          other bundle backup exported succeeds
        by_cases entries : other.snapshot.entries = state.snapshot.entries
        · exact .inl ⟨shown.1.trans entries, shown.2.1.trans gen, shown.2.2⟩
        · have ledger : other.ledger = state.ledger := by
            by_contra different
            exact apart ⟨gen, lastCommit, entries, different⟩
          exact .inr ⟨shown.1, shown.2.1, shown.2.2.trans ledger.symm⟩
      | 2 =>
        exact .inr (reopen_second env inputs cap state events svc disk live other bundle backup exported laws validCap succeeds)
      | later + 3 => exact .inr (after succeeds)
    have ended := restore_ends laws exported allowRollback ⟨disk, plan, nonce, svc⟩ resolved
      live.retained live.limit
    unfold Ends at ended
    generalize restoreBackup env backup allowRollback ⟨disk, plan, nonce, svc⟩ = outcome at ended succeeds
    obtain ⟨_, _⟩ := outcome
    cases ended with
    | refused _ _ same => exact landed 0 (by rw [← succeeds, same]; rfl)
    | restored _ _ same => exact landed 3 (by rw [← succeeds, same])
    | interrupted _ _ count same => exact landed count (by rw [← succeeds, same])

end

def Attended : Event → Prop
  | .crash => False
  | .reopen _ => False
  | _ => True

-- A resolved handle is in step with its files, and every backup is one.
structure Stocked (env : Env) (inputs : List Bytes) (cap : Nat) (world : World) : Prop where
  live : ∀ svc, world.live = some svc → svc.unresolved = false → ∃ state events,
    Live env inputs cap state events svc world.disk
  backups : ∀ backup ∈ world.backups, ∃ state bundle, BackupOf env inputs cap state bundle backup

theorem unresolved_refuses (env : Env) (m : Machine) (unresolved : m.service.unresolved = true) :
    (∀ req : Request, (req.submit env m).2.service.unresolved = true) ∧ (compact env m).2.service.unresolved = true ∧
      (∀ backup, (exportBackup env m).1 ≠ .ok backup) ∧
        ∀ backup allowRollback, (restoreBackup env backup allowRollback m).2.service.unresolved = true := by
  refine ⟨?_, ?_, ?_, ?_⟩
  · intro req
    have refused := submit_unresolved env req unresolved
    rw [refused.service]
    exact unresolved
  · simp only [compact, bind_apply, Action.read, unresolved, if_true]
    exact unresolved
  · simp only [exportBackup, bind_apply, Action.read, unresolved, if_true]
    rintro _ ⟨⟩
  · intro backup allowRollback
    simp only [restoreBackup, bind_apply, Action.read, unresolved, if_true]
    exact unresolved

section

variable (env : Env) (inputs : List Bytes) (laws : BarrierLaws env) (free : CollisionFree env inputs) (cap : Nat)
  (validCap : validateCapacity cap = .ok ()) (world : World) (stocked : Stocked env inputs cap world)

include laws free stocked

theorem stocked_submit (validCap : validateCapacity cap = .ok ()) (req : Request) (plan : Plan)
    (hashed : (step env cap world (.submit req plan)).hashed ⊆ inputs) :
      Stocked env inputs cap (step env cap world (.submit req plan)) := by
  cases found : world.live with
  | none =>
    simp only [step, found]
    exact stocked
  | some svc =>
    simp only [step, found] at hashed ⊢
    refine ⟨?_, stocked.backups⟩
    intro other same resolved
    cases same
    cases unresolved : svc.unresolved with
    | true =>
      rw [(unresolved_refuses env ⟨world.disk, plan, world.nonce, svc⟩ unresolved).1 req] at resolved
      cases resolved
    | false =>
      obtain ⟨state, events, live⟩ := stocked.live svc found unresolved
      have ended := submit_ends env inputs laws free cap state events req ⟨world.disk, plan, world.nonce, svc⟩ live
        unresolved validCap (fun input member => hashed (mem_append_right _ member))
      unfold Ends at ended
      generalize req.submit env ⟨world.disk, plan, world.nonce, svc⟩ = outcome at ended resolved ⊢
      obtain ⟨_, _⟩ := outcome
      cases ended with
      | refused _ _ refused =>
        rw [refused.disk, refused.service]
        exact ⟨state, events, live⟩
      | committed _ _ _ _ _ _ _ next => exact ⟨_, _, next⟩
      | unknown _ _ _ _ _ _ _ _ _ poisoned =>
        rw [poisoned] at resolved
        cases resolved

omit laws in
theorem stocked_compact (plan : Plan) : Stocked env inputs cap (step env cap world (.compact plan)) := by
  cases found : world.live with
  | none =>
    simp only [step, found]
    exact stocked
  | some svc =>
    simp only [step, found]
    refine ⟨?_, stocked.backups⟩
    intro other same resolved
    cases same
    cases unresolved : svc.unresolved with
    | true =>
      rw [(unresolved_refuses env ⟨world.disk, plan, world.nonce, svc⟩ unresolved).2.1] at resolved
      cases resolved
    | false =>
      obtain ⟨state, events, live⟩ := stocked.live svc found unresolved
      have ended := compact_ends free ⟨world.disk, plan, world.nonce, svc⟩ live unresolved
      unfold Ends at ended
      generalize compact env ⟨world.disk, plan, world.nonce, svc⟩ = outcome at ended resolved ⊢
      obtain ⟨_, _⟩ := outcome
      cases ended with
      | refused _ _ disk unchanged =>
        rw [disk, unchanged]
        exact ⟨state, events, live⟩
      | compacted _ _ _ _ next => exact ⟨_, _, next⟩
      | interrupted _ _ _ _ _ _ _ _ poisoned =>
        rw [poisoned] at resolved
        cases resolved

omit laws in
theorem stocked_export : Stocked env inputs cap (step env cap world .exportBackup) := by
  cases found : world.live with
  | none =>
    simp only [step, found]
    exact stocked
  | some svc =>
    simp only [step, found]
    refine ⟨fun other same resolved => stocked.live other (found.trans same) resolved, ?_⟩
    intro backup member
    rcases mem_append.mp member with older | fresh
    · exact stocked.backups backup older
    · have res : (exportBackup env ⟨world.disk, none, world.nonce, svc⟩).1 = .ok backup := by
        cases outcome : (exportBackup env ⟨world.disk, none, world.nonce, svc⟩).1 with
        | error =>
          rw [outcome] at fresh
          cases fresh
        | ok =>
          rw [outcome] at fresh
          rw [mem_singleton.mp fresh]
      cases unresolved : svc.unresolved with
      | true => exact absurd res ((unresolved_refuses env _ unresolved).2.2.1 backup)
      | false =>
        obtain ⟨state, _, live⟩ := stocked.live svc found unresolved
        exact ⟨state, export_ends free live unresolved backup res⟩

omit free in
theorem stocked_restore (index : Nat) (allowRollback : Bool) (plan : Plan) :
    Stocked env inputs cap (step env cap world (.restoreBackup index allowRollback plan)) := by
  cases found : world.live with
  | none =>
    simp only [step, found]
    exact stocked
  | some svc =>
    cases chosen : world.backups[index]? with
    | none =>
      simp only [step, found, chosen]
      exact stocked
    | some backup =>
      simp only [step, found, chosen]
      refine ⟨?_, stocked.backups⟩
      intro other same resolved
      cases same
      cases unresolved : svc.unresolved with
      | true =>
        rw [(unresolved_refuses env ⟨world.disk, plan, world.nonce, svc⟩ unresolved).2.2.2] at resolved
        cases resolved
      | false =>
        obtain ⟨state, events, live⟩ := stocked.live svc found unresolved
        obtain ⟨restored, bundle, exported⟩ := stocked.backups backup (mem_of_getElem? chosen)
        have ended := restore_ends laws exported allowRollback
          ⟨world.disk, plan, world.nonce, svc⟩ unresolved live.retained live.limit
        unfold Ends at ended
        generalize restoreBackup env backup allowRollback ⟨world.disk, plan, world.nonce, svc⟩ = outcome at ended resolved ⊢
        obtain ⟨_, _⟩ := outcome
        cases ended with
        | refused _ _ disk unchanged =>
          rw [disk, unchanged]
          exact ⟨state, events, live⟩
        | restored _ _ _ next => exact ⟨_, _, next⟩
        | interrupted _ _ _ _ _ poisoned =>
          rw [poisoned] at resolved
          cases resolved

end

theorem stocked_run (env : Env) (inputs : List Bytes) (laws : BarrierLaws env) (free : CollisionFree env inputs)
    (cap : Nat)
    (validCap : validateCapacity cap = .ok ()) (world : World) (events : List Event)
    (attended : ∀ event ∈ events, Attended event) (hashed : (run (step env cap) world events).hashed ⊆ inputs)
    (stocked : Stocked env inputs cap world) : Stocked env inputs cap (run (step env cap) world events) := by
  induction events generalizing world with
  | nil => exact stocked
  | cons event events ih =>
    have stepHashed := List.Subset.trans (run_hashed_grows env cap (step env cap world event) events) hashed
    refine ih (step env cap world event) (fun other member => attended other (by simp [member])) hashed ?_
    cases event with
    | submit req plan => exact stocked_submit env inputs laws free cap world stocked validCap req plan stepHashed
    | compact plan => exact stocked_compact env inputs free cap world stocked plan
    | exportBackup => exact stocked_export env inputs free cap world stocked
    | restoreBackup index allowRollback plan => exact stocked_restore env inputs laws cap world stocked index allowRollback plan
    | crash => cases attended .crash (by simp)
    | reopen plan => cases attended (.reopen plan) (by simp)

/-- After a crash in a restore the next handle shows one of the two states, unless they are mixable. -/
theorem restore_atomic_iff (env : Env) (laws : BarrierLaws env) (cap nonce : Nat) (start : World)
    (created : Created env cap nonce start) (events : List Event) (attended : ∀ event ∈ events, Attended event)
    (free : CollisionFree env (run (step env cap) start events).hashed) (svc : Service)
    (found : (run (step env cap) start events).live = some svc) (resolved : svc.unresolved = false) (index : Nat)
    (backup : Bytes) (chosen : (run (step env cap) start events).backups[index]? = some backup) (allowRollback : Bool) :
    ∃ restored, decodeBackup env backup cap = .ok restored ∧ ((∀ plan reopenPlan drawn opened,
        (reopen env cap (step env cap (run (step env cap) start events)
          (.restoreBackup index allowRollback plan)).disk reopenPlan drawn).1 = .ok opened →
            opened.shows svc.snapshot svc.ledger ∨ opened.shows restored.snapshot restored.ledger) ↔
              ¬ Mixable svc restored) := by
  obtain ⟨validCap, tracks, _⟩ := created_tracks (run (step env cap) start events).hashed created
  have begins : Stocked env (run (step env cap) start events).hashed cap start := by
    refine ⟨fun first same clear => ⟨_, _, tracks.live first same clear⟩, ?_⟩
    obtain ⟨_, _, _, rfl⟩ := created
    simp
  have stocked := stocked_run env _ laws free cap validCap start events attended (List.Subset.refl _) begins
  obtain ⟨state, journal, live⟩ := stocked.live svc found resolved
  obtain ⟨other, bundle, exported⟩ := stocked.backups backup (mem_of_getElem? chosen)
  have decoded := decode_backup_ok laws exported
  refine ⟨_, decoded, ?_⟩
  rw [← restore_untorn_iff env _ laws free cap validCap state journal svc _ live other bundle backup exported allowRollback
    (run (step env cap) start events).nonce resolved _ decoded]
  simp only [step, found, chosen]

-- Two lineages from one exported state end with the same request at the same place.
def branchEvents : List Event :=
  [.compact none, .exportBackup, .submit firstRequest none, .submit secondRequest none, .exportBackup, .restoreBackup 0 true none,
    .submit thirdRequest none, .submit secondRequest none]

def leftState : Committed := nextState testEnv (nextState testEnv Committed.empty 1 firstRequest) 3 secondRequest

def rightState : Committed := nextState testEnv (nextState testEnv Committed.empty 1 thirdRequest) 3 secondRequest

theorem next_last_commit (env : Env) (state other : Committed) (count : Nat) (req : Request)
    (gen : state.snapshot.generation = other.snapshot.generation) :
    (nextState env state count req).snapshot.lastCommit = (nextState env other count req).snapshot.lastCommit := by
  simp only [nextState, Committed.commit, nextMarkerOf, gen]

theorem branches_apart : leftState.snapshot.generation = rightState.snapshot.generation ∧
    leftState.snapshot.lastCommit = rightState.snapshot.lastCommit ∧
      leftState.snapshot.entries ≠ rightState.snapshot.entries ∧
      leftState.ledger ≠ rightState.ledger := by
  have generations : ∀ req, (nextState testEnv Committed.empty 1 req).snapshot.generation = 1 := fun _ => rfl
  have same := (generations firstRequest).trans (generations thirdRequest).symm
  unfold leftState rightState
  refine ⟨congrArg (· + 1) same, next_last_commit testEnv _ _ 3 secondRequest same, ?_, ?_⟩
  · intro same
    have contents := congrArg (fun entries : Entries => entries[(⟨str "root/team-a", str "secret/application"⟩ : StorageKey)]?) same
    simp only [nextState, Committed.commit, firstRequest, secondRequest, thirdRequest, sampleRequest, Request.apply, lookup_insert] at contents
    revert contents
    decide
  · intro same
    have records := congrArg (fun ledger : Ledger => ledger[thirdRequest.key]?) same
    have other : firstRequest.key ≠ thirdRequest.key ∧ secondRequest.key ≠ thirdRequest.key := by decide
    simp only [nextState, Committed.commit, nextMarkerOf, lookup_insert, if_neg other.1, if_neg other.2, if_true] at records
    cases records

theorem branch_fresh : (nextState testEnv Committed.empty 1 firstRequest).ledger[secondRequest.key]? = none ∧
    (nextState testEnv Committed.empty 1 thirdRequest).ledger[secondRequest.key]? = none := by
  have other : firstRequest.key ≠ secondRequest.key ∧ thirdRequest.key ≠ secondRequest.key := by decide
  simp only [nextState, Committed.commit, nextMarkerOf, lookup_insert, if_neg other.1, if_neg other.2]
  exact ⟨rfl, rfl⟩

theorem branch_grows (free : CollisionFree testEnv branchInputs) {world : World} {checkpoint : CheckpointMarker}
    {svc : Service}
    (stands : Standing testEnv branchInputs 4 world Committed.empty [.checkpoint checkpoint] svc) {req : Request}
    (valid : req.validate = .ok ()) (covered : hashedAt testEnv 1 2 req ⊆ branchInputs)
    (known : world.hashed ⊆ branchInputs)
    (fresh : (nextState testEnv Committed.empty 1 req).ledger[secondRequest.key]? = none) : ∃ events service',
      Standing testEnv branchInputs 4
        (step testEnv 4 (step testEnv 4 world (.submit req none)) (.submit secondRequest none))
        (nextState testEnv (nextState testEnv Committed.empty 1 req) 3 secondRequest) events service' ∧
          events.length = 5 ∧
      (step testEnv 4 (step testEnv 4 world (.submit req none)) (.submit secondRequest none)).backups = world.backups ∧
      (step testEnv 4 (step testEnv 4 world (.submit req none)) (.submit secondRequest none)).hashed ⊆
        branchInputs := by
  have validCap : validateCapacity 4 = .ok () := by decide
  have hashed : hashedBy testEnv svc req ⊆ branchInputs := by
    rw [standing_hashed testEnv branchInputs 4 _ _ _ svc stands]
    exact covered
  obtain ⟨middle, standsMiddle, _, inputs, backups⟩ := submit_stands test_barrier_laws test_barrier_tight free stands validCap
    ⟨by decide, show 1 ≤ 32 by decide, by decide⟩ valid rfl hashed
  have hashedMiddle : hashedBy testEnv middle secondRequest ⊆ branchInputs := by
    rw [standing_hashed testEnv branchInputs 4 _ _ _ middle standsMiddle]
    exact List.Subset.trans (subset_append_left _ _) (subset_append_right _ _)
  obtain ⟨final, standsFinal, _, finalInputs, finalBackups⟩ := submit_stands test_barrier_laws test_barrier_tight free standsMiddle
    validCap ⟨show 1 < 8 by decide, show 3 ≤ 32 by decide, show 1 < 4 by decide⟩ sample_requests_valid.2.1 fresh hashedMiddle
  refine ⟨_, final, standsFinal, rfl, finalBackups.trans backups, ?_⟩
  rw [finalInputs, inputs]
  exact append_subset.mpr ⟨append_subset.mpr ⟨known, hashed⟩, hashedMiddle⟩

theorem branch_run : ∃ start events svc bundle backup emptyBundle emptyBackup, Created testEnv 4 0 start ∧
    Standing testEnv branchInputs 4 (run (step testEnv 4) start branchEvents) rightState events svc ∧
    (run (step testEnv 4) start branchEvents).hashed ⊆ branchInputs ∧
    (run (step testEnv 4) start branchEvents).backups = [emptyBackup, backup] ∧
    BackupOf testEnv branchInputs 4 Committed.empty emptyBundle emptyBackup ∧
      BackupOf testEnv branchInputs 4 leftState bundle backup := by
  have laws := test_barrier_laws
  have free := branch_inputs_free
  obtain ⟨start, svc, created, stands, noInputs, noBackups, _⟩ := created_stands testEnv laws test_barrier_tight branchInputs 4 0 (by decide)
  obtain ⟨checkpoint, compacted, _, standsCompacted, inputsCompacted, backupsCompacted⟩ := compact_stands laws test_barrier_tight free stands
  obtain ⟨first, firstBundle, standsFirst, exportedFirst, backupsFirst, inputsFirst⟩ := export_stands testEnv laws test_barrier_tight
    branchInputs free 4 _ _ _ compacted standsCompacted ⟨by decide, show 1 ≤ 32 by decide, by decide⟩
  obtain ⟨_, left, standsLeft, _, backupsLeft, inputsLeft⟩ := branch_grows free standsFirst sample_requests_valid.1
    (subset_append_left _ _) (by rw [inputsFirst, inputsCompacted, noInputs]; exact nil_subset _) branch_fresh.1
  obtain ⟨second, secondBundle, standsSecond, exportedSecond, backupsSecond, inputsSecond⟩ := export_stands testEnv laws test_barrier_tight
    branchInputs free 4 _ _ _ left standsLeft ⟨show 2 < 8 by decide, by omega, show 2 < 4 by decide⟩
  rw [backupsLeft, backupsFirst, backupsCompacted, noBackups] at backupsSecond
  obtain ⟨back, standsBack, inputsBack, backupsBack⟩ := restore_stands testEnv laws branchInputs 4 _ _ _ left standsSecond 0
    (by rw [backupsSecond]; rfl) exportedFirst
  obtain ⟨journal, right, standsRight, _, backupsRight, inputsRight⟩ := branch_grows free standsBack sample_requests_valid.2.2
    (List.Subset.trans (subset_append_right _ _) (subset_append_right _ _)) (by rw [inputsBack, inputsSecond]; exact inputsLeft) branch_fresh.2
  exact ⟨start, journal, right, secondBundle, second, firstBundle, first, created, standsRight, inputsRight,
    backupsRight.trans (backupsBack.trans backupsSecond), exportedFirst, exportedSecond⟩

-- The empty backup is of another generation, so restoring it after the run is atomic.
theorem restore_atomic_empty_backup : ∃ start svc backup restored, Created testEnv 4 0 start ∧
    (run (step testEnv 4) start branchEvents).live = some svc ∧ svc.unresolved = false ∧ svc.snapshot.generation = 2 ∧
    (run (step testEnv 4) start branchEvents).backups[0]? = some backup ∧ decodeBackup testEnv backup 4 = .ok restored ∧
    ¬ Mixable svc restored ∧ ∀ plan reopenPlan drawn opened,
      (reopen testEnv 4 (step testEnv 4 (run (step testEnv 4) start branchEvents) (.restoreBackup 0 true plan)).disk
        reopenPlan drawn).1 =
          .ok opened → opened.shows svc.snapshot svc.ledger ∨ opened.shows restored.snapshot restored.ledger := by
  obtain ⟨start, events, svc, _, _, bundle, backup, created, stands, inputs, backups, exported, _⟩ := branch_run
  have chosen : (run (step testEnv 4) start branchEvents).backups[0]? = some backup := by rw [backups]; rfl
  have decoded := decode_backup_ok test_barrier_laws exported
  have generation : svc.snapshot.generation = 2 := by
    rw [stands.live.snapshot]
    rfl
  have attended : ∀ event ∈ branchEvents, Attended event := by simp [branchEvents, Attended]
  obtain ⟨restored, shown, atomic⟩ := restore_atomic_iff testEnv test_barrier_laws 4 0 start created branchEvents attended
    (collision_free_subset inputs branch_inputs_free) svc stands.found stands.resolved 0 backup chosen true
  have apart : ¬ Mixable svc restored := by
    rintro ⟨same, _⟩
    rw [← Except.ok.inj (decoded.symm.trans shown), generation] at same
    cases same
  exact ⟨start, svc, backup, restored, created, stands.found, stands.resolved, generation, chosen, shown, apart, atomic.mpr apart⟩

-- A crash after the first replacement opens on one's entries and the other's ledger.
theorem restore_mixes_lineages : ∃ start svc backup restored opened, Created testEnv 4 0 start ∧
    (run (step testEnv 4) start branchEvents).live = some svc ∧ svc.unresolved = false ∧
    (run (step testEnv 4) start branchEvents).backups[1]? = some backup ∧ decodeBackup testEnv backup 4 = .ok restored ∧
    (reopen testEnv 4 (step testEnv 4 (run (step testEnv 4) start branchEvents)
      (.restoreBackup 1 false (some (1, 0)))).disk none 0).1 = .ok opened ∧
    ¬ opened.shows svc.snapshot svc.ledger ∧ ¬ opened.shows restored.snapshot restored.ledger := by
  obtain ⟨start, events, svc, bundle, backup, _, _, created, stands, _, backups, _, exported⟩ := branch_run
  have chosen : (run (step testEnv 4) start branchEvents).backups[1]? = some backup := by rw [backups]; rfl
  obtain ⟨gen, lastCommit, entries, ledger⟩ := branches_apart
  obtain ⟨opened, outcome, mixed⟩ := restore_mixes test_barrier_laws branch_inputs_free (by decide) stands.live exported false
    (run (step testEnv 4) start branchEvents).nonce stands.resolved gen lastCommit
  have decoded := decode_backup_ok test_barrier_laws exported
  refine ⟨start, svc, backup, _, opened, created, stands.found, stands.resolved, chosen, decoded, ?_, ?_, ?_⟩
  · simp only [step, stands.found, chosen]
    exact outcome
  · rintro ⟨sameEntries, _, _⟩
    rw [stands.live.snapshot] at sameEntries
    exact entries (mixed.1.symm.trans sameEntries)
  · rintro ⟨_, _, sameLedger⟩
    exact ledger (sameLedger.symm.trans mixed.2.2)

end HeptaBao.Durable
