import HeptaBao.Durable.Recovery

namespace HeptaBao.Durable

open Wire Std Exec Action

section

variable (env : Env) (inputs : List Bytes) (laws : BarrierLaws env) (free : CollisionFree env inputs) (cap : Nat)
  (state : Committed) (events : List JournalEvent) (settled : Settled env inputs state events)

include laws free settled

theorem persist_ledger_ends (files : Files) (body : Bytes) (m : Machine) (ledgerFits : LedgerFits env state)
    (stage : Stage env inputs state ⟨state.snapshot, events, files.ledger⟩) (within : state.snapshot.generation ≤ cap)
    (onDisk : OnDisk env ⟨state.snapshot, events, files.ledger⟩ body [] m.disk)
    (snap : m.service.snapshot = state.snapshot) (ledger : m.service.ledger = state.ledger) :
    Ends (persistLedger env) m (fun res reached => reached.service = m.service ∧
      reached.disk.journal = m.disk.journal ∧ (m.plan = none → res = .ok ()) ∧
        ((res = .ok () ∧ OnDisk env ⟨state.snapshot, events, state.ledger⟩ body [] reached.disk) ∨
          ∃ flaw files', res = .error flaw ∧ files'.events = events ∧
            Image env inputs cap state files' reached.disk)) := by
  have valid := settled_ok free settled
  have room : ∀ kept, Room env ⟨state.snapshot, events, kept⟩ body := fun kept =>
    settled_room settled _ _ _
  obtain ⟨nonce, bytes, written, fits⟩ := ledgerFits
  obtain ⟨encoded, resealed, _⟩ := reseal_ledger laws m.nonce written
  have complete : OnDisk env ⟨state.snapshot, events, state.ledger⟩ body [] (m.disk.write .ledger encoded) := by
    refine on_disk_ledger env ⟨state.snapshot, events, files.ledger⟩ body [] m.disk state.ledger m.nonce encoded onDisk ?_ (by omega)
    rw [valid.ledger.size]
    exact resealed
  unfold persistLedger
  apply ends_read
  refine ends_lift _ encoded _ m _ (by rw [snap, ledger]; exact resealed) ?_
  apply ends_modify
  refine ends_weaken (atomic_write_ends _ .ledger (by omega)) ?_
  intro res reached ended
  obtain ⟨svc, steady, outcome⟩ := ended
  refine ⟨svc, ?_, fun planned => (steady.faultless planned).1, ?_⟩
  · rcases outcome with ⟨_, disk⟩ | ⟨_, _, disk | disk⟩ <;> rw [disk] <;> rfl
  · rcases outcome with ⟨rfl, disk⟩ | ⟨flaw, rfl, disk | disk⟩
    · rw [disk]
      exact .inl ⟨rfl, complete⟩
    · rw [disk]
      exact .inr ⟨flaw, _, rfl, rfl, stage, ⟨body, [], onDisk, room _⟩, ⟨nonce, bytes, written, fits⟩, within⟩
    · rw [disk]
      exact .inr ⟨flaw, _, rfl, rfl, .quiet state events settled, ⟨body, [], complete, room _⟩, ⟨nonce, bytes, written, fits⟩, within⟩

end

-- The ledger's references are committed, the journal's aborts aborted; commits win.
def Reconciles (state : Committed) (events : List JournalEvent) (svc : Service) : Prop :=
  ∃ aborted, AbortsOf events aborted ∧ svc.reconciliation = reconcileCommitted (markersOf state.ledger) aborted

structure Reopened (env : Env) (inputs : List Bytes) (cap : Nat) (state : Committed) (events : List JournalEvent)
    (svc : Service) (disk : Disk) : Prop where
  live : Live env inputs cap state events svc disk
  resolved : svc.unresolved = false
  reconciles : Reconciles state events svc

variable (env : Env) (inputs : List Bytes) (laws : BarrierLaws env) (free : CollisionFree env inputs) (cap : Nat)
  (state : Committed) (files : Files)

include laws free

theorem recover_ends (body tail : Bytes) (m : Machine) (stage : Stage env inputs state files)
    (onDisk : OnDisk env files body tail m.disk) (room : Room env files body) (ledgerFits : LedgerFits env state)
    (within : state.snapshot.generation ≤ cap) (loaded : m.service = (Loaded.of files body tail cap).service) :
    Ends (recover env files.events files.ledger.size (tail ≠ [])) m (fun res reached =>
      ∃ files', Image env inputs cap state files' reached.disk ∧ Closes files.events files'.events ∧
        (m.plan = none → res = .ok ()) ∧
          (res = .ok () → Reopened env inputs cap state files'.events reached.service reached.disk)) := by
  have snapshotEq := stage_snapshot stage
  obtain ⟨replay, published, events, final, runs, checked, resolves⟩ := stage_recovers free stage within body tail
  have ledgerValid : validateLedgerGeneration files.ledger files.ledger.size = .ok () := by
    cases stage with
    | quiet _ _ settled | intended _ _ _ settled | published _ _ _ _ settled | logged _ _ _ _ settled =>
      have valid := settled_ok free settled
      exact validate_ledger_ok _ _ (by rw [valid.ledger.size]; exact valid.ledger)
  have imageOf : ∀ events disk body left, Stage env inputs state ⟨files.snapshot, events, files.ledger⟩ →
      OnDisk env ⟨files.snapshot, events, files.ledger⟩ body left disk → Room env ⟨files.snapshot, events, files.ledger⟩ body →
        Image env inputs cap state ⟨files.snapshot, events, files.ledger⟩ disk :=
    fun _ _ body left stage onDisk room => ⟨stage, ⟨body, left, onDisk, room⟩, ledgerFits, within⟩
  have nextStage : Stage env inputs state ⟨files.snapshot, events, files.ledger⟩ := by
    rcases resolves.shape with ⟨_, rfl, _⟩ | ⟨_, _, _, _, _, _, _, _, next⟩
    · exact stage
    · exact next
  unfold recover
  apply ends_read
  refine ends_lift _ () _ m _ (by rw [loaded]; exact ledgerValid) ?_
  refine ends_lift _ replay _ m _ (by rw [loaded]; exact runs) ?_
  refine ends_lift _ published _ m _ (by rw [loaded]; exact checked) ?_
  refine ends_bind _ (repair_tail_ends onDisk (by rw [loaded]; rfl))
    (fun flaw reached stopped => ?_) (fun value repaired went => ?_)
  · obtain ⟨_, steady, outcome⟩ := stopped
    rcases outcome with ⟨wrong, _⟩ | ⟨_, left, _, torn⟩
    · cases wrong
    · exact ⟨files, imageOf files.events _ _ _ stage torn room, .inl rfl, (fun planned => nomatch (steady.faultless planned).1), nofun⟩
  obtain ⟨repairedService, repairedSteady, outcome⟩ := went
  have repairedDisk : OnDisk env files body [] repaired.disk := by
    rcases outcome with ⟨_, whole⟩ | ⟨_, _, wrong, _⟩
    · exact whole
    · cases wrong
  have repairedBytes : repaired.service.journalBytes = repaired.disk.journal.length := by
    rw [repairedService, loaded, repairedDisk.journal]
    simp [Loaded.of]
  refine ends_bind _ (settle_pending_ends env inputs laws cap state files imageOf stage resolves repairedDisk room (by rw [repairedService, loaded]; rfl) repairedBytes
    (by rw [repairedService, loaded]; rfl)) (fun flaw reached stopped => ?_) (fun value closedMachine went => ?_)
  · obtain ⟨faultless, outcome⟩ := stopped
    rcases outcome with ⟨wrong, _⟩ | ⟨_, events', _, closes, image⟩
    · cases wrong
    · refine ⟨_, image, closes, ?_, nofun⟩
      intro planned
      cases (faultless (repairedSteady.faultless planned).2).1
  obtain ⟨faultless, outcome⟩ := went
  rcases outcome with ⟨same, svc, closes, body', whole⟩ | ⟨_, _, wrong, _⟩
  swap
  · cases wrong
  cases same
  apply ends_modify
  rw [snapshotEq] at whole nextStage
  refine ends_bind _ (persist_ledger_ends env inputs laws free cap state events resolves.settled files body' _
    ledgerFits nextStage within whole ?_ ?_) (fun flaw reached stopped => ?_) (fun value reached went => ?_)
  · simp only [svc, repairedService, loaded]
    exact snapshotEq
  · simp only [resolves.committed]
    exact records_of_markers state.ledger
  · obtain ⟨_, _, persisted, outcome⟩ := stopped
    rcases outcome with ⟨wrong, _⟩ | ⟨_, files', _, sameEvents, image⟩
    · cases wrong
    · refine ⟨files', image, by rw [sameEvents]; exact closes, ?_, nofun⟩
      intro planned
      cases persisted (faultless (repairedSteady.faultless planned).2).2
  · obtain ⟨finalService, sameJournal, _, outcome⟩ := went
    rcases outcome with ⟨_, done⟩ | ⟨_, _, wrong, _⟩
    swap
    · cases wrong
    refine ⟨⟨state.snapshot, events, state.ledger⟩, ⟨.quiet state events resolves.settled,
      ⟨body', [], done, settled_room resolves.settled _ _ _⟩, ledgerFits, within⟩, closes, fun _ => rfl, ?_⟩
    intro _
    refine ⟨⟨?_, ?_, ?_, ?_, ?_, ?_, resolves.settled, ⟨body', done⟩, within⟩, rfl, ?_⟩
    · change reached.service.snapshot = _
      simp only [finalService, svc, repairedService, loaded]
      exact snapshotEq
    · change reached.service.ledger = _
      simp only [finalService, resolves.committed]
      exact records_of_markers state.ledger
    · change reached.service.journalSequence = _
      simp only [finalService, svc]
    · change reached.service.journalBytes = reached.disk.journal.length
      simp only [finalService, svc, sameJournal]
    · change reached.service.journalLimit = _
      simp only [finalService, svc, repairedService, loaded]
      rfl
    · change reached.service.maxRetainedRequests = _
      simp only [finalService, svc, repairedService, loaded]
      rfl
    · refine ⟨final.reconciliation, resolves.aborted, ?_⟩
      change reached.service.reconciliation = _
      simp only [finalService, resolves.committed]

variable {env inputs cap state files} in
theorem reopen_recovers {disk : Disk} (plan : Plan) (nonce : Nat) (validCap : validateCapacity cap = .ok ())
    (image : Image env inputs cap state files disk) :
    ∃ files', Image env inputs cap state files' (reopen env cap disk plan nonce).2.1 ∧
      Closes files.events files'.events ∧
      (plan = none → ∃ svc, (reopen env cap disk plan nonce).1 = .ok svc) ∧
        ∀ svc, (reopen env cap disk plan nonce).1 = .ok svc →
          Reopened env inputs cap state files'.events svc (reopen env cap disk plan nonce).2.1 := by
  obtain ⟨body, tail, onDisk, room⟩ := image.stored
  have filesOk := stage_files_ok free image.stage
  have loads := load_on_disk laws validCap filesOk onDisk
  obtain ⟨files', nextImage, closes, faultless, succeeds⟩ := recover_ends env inputs laws free cap state files body tail
    ⟨disk, plan, nonce, (Loaded.of files body tail cap).service⟩ image.stage onDisk room image.ledgerFits image.within rfl
  simp only [reopen, loads]
  change Image env inputs cap state files' (recover env files.events files.ledger.size (tail ≠ [])
    ⟨disk, plan, nonce, (Loaded.of files body tail cap).service⟩).2.disk at nextImage
  cases outcome : recover env (Loaded.of files body tail cap).events (Loaded.of files body tail cap).ledgerGeneration
      (Loaded.of files body tail cap).incompleteTail ⟨disk, plan, nonce, (Loaded.of files body tail cap).service⟩ with
  | mk res reached =>
    have outcome' : recover env files.events files.ledger.size (tail ≠ [])
      ⟨disk, plan, nonce, (Loaded.of files body tail cap).service⟩ = (res, reached) := outcome
    rw [outcome'] at nextImage faultless succeeds
    cases res with
    | error =>
      refine ⟨files', nextImage, closes, ?_, fun svc wrong => nomatch wrong⟩
      intro planned
      cases faultless planned
    | ok =>
      refine ⟨files', nextImage, closes, fun _ => ⟨_, rfl⟩, ?_⟩
      intro svc same
      cases same
      exact succeeds rfl

end HeptaBao.Durable
