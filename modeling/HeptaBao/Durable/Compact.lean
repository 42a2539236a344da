import HeptaBao.Durable.Publish

namespace HeptaBao.Durable

open Wire Std Exec Action

inductive Compacted (env : Env) (inputs : List Bytes) (cap : Nat) (state : Committed) (events : List JournalEvent) (m : Machine) :
    Except ServiceError CompactionOutcome → Machine → Prop
  | refused (flaw : ServiceError) (reached : Machine) (disk : reached.disk = m.disk) (svc : reached.service = m.service)
      (cause : ∀ point record, checkpointMarker env state.snapshot state.ledger = .ok point →
        sealedJournalRecord env m.nonce 1 (.checkpoint point) = .ok record → maxFileBytes < (journalMagic ++ record).length) :
      Compacted env inputs cap state events m (.error flaw) reached
  | compacted (outcome : CompactionOutcome) (reached : Machine) (point : CheckpointMarker)
      (taken : checkpointMarker env state.snapshot state.ledger = .ok point)
      (live : Live env inputs cap state [.checkpoint point] reached.service reached.disk)
      (resolved : reached.service.unresolved = false) (reconciliation : reached.service.reconciliation = m.service.reconciliation) :
      Compacted env inputs cap state events m (.ok outcome) reached
  | interrupted (flaw : ServiceError) (reached : Machine) (files : Files) (point : CheckpointMarker)
      (taken : checkpointMarker env state.snapshot state.ledger = .ok point) (planned : m.plan ≠ none)
      (image : Image env inputs cap state files reached.disk)
      (journal : files.events = events ∨ files.events = [.checkpoint point])
      (poisoned : reached.service.unresolved = true) (reconciliation : reached.service.reconciliation = m.service.reconciliation) :
      Compacted env inputs cap state events m (.error flaw) reached

theorem on_disk_checkpoint {env : Env} {files : Files} {body : Bytes} {disk : Disk} {nonce : Nat}
    {point : CheckpointMarker}
    {record : Bytes} (onDisk : OnDisk env files body [] disk)
    (written : sealedJournalRecord env nonce 1 (.checkpoint point) = .ok record)
    (fits : (journalMagic ++ record).length ≤ maxFileBytes) :
    OnDisk env { files with events := [.checkpoint point] } record []
      (disk.write .journal (journalMagic ++ record)) := by
  refine ⟨onDisk.snapshot, onDisk.snapshotFits, onDisk.ledger, onDisk.ledgerFits, by simp [Disk.write], ?_, .inl rfl, fits⟩
  exact ⟨nonce, record, [], written, by simp, rfl⟩

theorem compact_ends {env : Env} {inputs : List Bytes} (free : CollisionFree env inputs) {cap : Nat}
    {state : Committed} {events : List JournalEvent} (m : Machine)
    (live : Live env inputs cap state events m.service m.disk)
    (resolved : m.service.unresolved = false) : Ends (compact env) m (Compacted env inputs cap state events m) := by
  have valid := settled_ok free live.settled
  have imageNow := live_image free live
  obtain ⟨point, taken⟩ := checkpoint_taken valid
  obtain ⟨body, onDisk⟩ := live.stored
  unfold compact
  apply ends_read
  rw [if_neg (by simp [resolved])]
  refine ends_lift _ () _ m _ (by rw [live.snapshot, live.ledger]; exact committed_validates valid) ?_
  refine ends_lift _ point _ m _ (by rw [live.snapshot, live.ledger]; exact taken) ?_
  cases sealedAs : sealedJournalRecord env m.nonce 1 (.checkpoint point) with
  | error flaw =>
    refine .refused flaw _ rfl rfl ?_
    intro other record same written
    rw [taken] at same
    cases same
    rw [sealedAs] at written
    cases written
  | ok record =>
    refine ends_lift _ record _ m _ rfl ?_
    apply ends_modify
    by_cases full : m.service.journalLimit < (journalMagic ++ record).length
    · rw [if_pos full]
      refine .refused _ _ rfl rfl ?_
      intro other found same written
      rw [taken] at same
      cases same
      rw [sealedAs] at written
      cases written
      rw [← live.limit]
      exact full
    · rw [if_neg full]
      rw [live.limit] at full
      have fits : (journalMagic ++ record).length ≤ maxFileBytes := by omega
      have settled := Settled.checkpoint state point valid taken
      have replaced := on_disk_checkpoint onDisk sealedAs fits
      apply ends_modify
      refine ends_bind _ (atomic_write_ends _ .journal fits) (fun flaw reached ended => ?_)
        (fun value reached ended => ?_)
      · obtain ⟨svc, steady, outcome⟩ := ended
        have planned : m.plan ≠ none := fun planned => nomatch (steady.faultless planned).1
        rcases outcome with ⟨wrong, _⟩ | ⟨_, _, disk | disk⟩
        · cases wrong
        · exact .interrupted flaw reached _ point taken planned (by rw [disk]; exact imageNow) (.inl rfl)
            (by rw [svc]) (by rw [svc])
        · refine .interrupted flaw reached ⟨state.snapshot, [.checkpoint point], state.ledger⟩ point taken planned ?_
            (.inr rfl) (by rw [svc]) (by rw [svc])
          rw [disk]
          exact ⟨.quiet state _ settled, ⟨record, [], replaced, settled_room settled _ _ _⟩, imageNow.ledgerFits, imageNow.within⟩
      · obtain ⟨svc, _, outcome⟩ := ended
        rcases outcome with ⟨_, disk⟩ | ⟨_, wrong, _⟩
        swap
        · cases wrong
        refine .compacted _ _ point taken ⟨?_, ?_, rfl, ?_, ?_, ?_, settled, ?_, live.within⟩ rfl ?_
        · change reached.service.snapshot = _
          rw [svc]
          exact live.snapshot
        · change reached.service.ledger = _
          rw [svc]
          exact live.ledger
        · change (journalMagic ++ record).length = reached.disk.journal.length
          rw [disk]
          rfl
        · change reached.service.journalLimit = _
          rw [svc]
          exact live.limit
        · change reached.service.maxRetainedRequests = _
          rw [svc]
          exact live.retained
        · change ∃ body, OnDisk env _ body [] reached.disk
          rw [disk]
          exact ⟨record, replaced⟩
        · change reached.service.reconciliation = _
          rw [svc]

end HeptaBao.Durable
