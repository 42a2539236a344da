import HeptaBao.Durable.Compact

namespace HeptaBao.Durable

open Wire Std Exec Action List

-- The three files inside a backup.
structure Bundle where
  snapshot : Bytes
  ledger : Bytes
  record : Bytes
  checkpoint : CheckpointMarker

def Bundle.journal (bundle : Bundle) : Bytes := journalMagic ++ bundle.record

structure BackupOf (env : Env) (inputs : List Bytes) (cap : Nat) (state : Committed) (bundle : Bundle) (backup : Bytes) : Prop where
  valid : CommittedOk env inputs state
  within : state.snapshot.generation ≤ cap
  taken : checkpointMarker env state.snapshot state.ledger = .ok bundle.checkpoint
  snapshot : ∃ nonce, sealedSnapshot env nonce state.snapshot = .ok bundle.snapshot
  ledger : ∃ nonce, sealedLedger env nonce state.snapshot.generation state.ledger = .ok bundle.ledger
  record : ∃ nonce, sealedJournalRecord env nonce 1 (.checkpoint bundle.checkpoint) = .ok bundle.record
  encoded : encodeBackup env state.snapshot.generation bundle.snapshot bundle.journal bundle.ledger = .ok backup

theorem encode_backup_eq {env : Env} {gen : Nat} {snap journal ledger backup : Bytes}
    (encoded : encodeBackup env gen snap journal ledger = .ok backup) :
    snap.length ≤ maxFileBytes ∧ journal.length ≤ maxFileBytes ∧ ledger.length ≤ maxFileBytes ∧
      ∃ snapshotPart journalPart ledgerPart body, writeBytes snap = .ok snapshotPart ∧
        writeBytes journal = .ok journalPart ∧
        writeBytes ledger = .ok ledgerPart ∧
          body = backupMagic ++ (little 2 backupVersion ++ (little 2 0 ++ (little 8 gen ++
          (snapshotPart ++ (journalPart ++ ledgerPart))))) ∧
        body.length + 32 ≤ maxBackupBytes ∧ backup = body ++ (digest32 env backupDomain body).bytes := by
  unfold encodeBackup at encoded
  split at encoded
  · cases encoded
  · rename_i fits
    simp only [not_or, Nat.not_lt] at fits
    obtain ⟨snapshotPart, wroteSnapshot, encoded⟩ := bind_ok encoded
    obtain ⟨journalPart, wroteJournal, encoded⟩ := bind_ok encoded
    obtain ⟨ledgerPart, wroteLedger, encoded⟩ := bind_ok encoded
    simp only at encoded
    split at encoded
    · cases encoded
    · rename_i small
      cases encoded
      exact ⟨fits.1, fits.2.1, fits.2.2, snapshotPart, journalPart, ledgerPart, _, wroteSnapshot, wroteJournal, wroteLedger, rfl, by omega, rfl⟩

theorem reads_backup (gen : Nat) {snap journal ledger snapshotPart journalPart ledgerPart : Bytes}
    (bounded : gen < 2 ^ 64) (snapshotFits : snap.length ≤ maxFileBytes) (journalFits : journal.length ≤ maxFileBytes)
    (ledgerFits : ledger.length ≤ maxFileBytes) (wroteSnapshot : writeBytes snap = .ok snapshotPart)
    (wroteJournal : writeBytes journal = .ok journalPart) (wroteLedger : writeBytes ledger = .ok ledgerPart) :
    Reader.Reads readBackup (backupMagic ++ (little 2 backupVersion ++ (little 2 0 ++ (little 8 gen ++
      (snapshotPart ++ (journalPart ++ ledgerPart)))))) (gen, snap, journal, ledger) := by
  unfold readBackup
  refine Reader.reads_bind (Reader.reads_exact _ 4 backupMagic rfl) ?_
  refine Reader.reads_check (check_true _ (decide_eq_true rfl)) ?_
  refine Reader.reads_bind (reads_u16 backupVersion (by decide)) ?_
  refine Reader.reads_check (check_true _ (decide_eq_true rfl)) ?_
  refine Reader.reads_bind (reads_u16 0 (by decide)) ?_
  refine Reader.reads_check (check_true _ (decide_eq_true rfl)) ?_
  refine Reader.reads_bind (reads_u64 gen bounded) ?_
  refine Reader.reads_bind (reads_bytes _ wroteSnapshot snapshotFits) ?_
  refine Reader.reads_bind (reads_bytes _ wroteJournal journalFits) ?_
  exact Reader.reads_map _ (fun ledger => (gen, snap, journal, ledger)) _ _ (reads_bytes _ wroteLedger ledgerFits)

section

variable (env : Env) (inputs : List Bytes) (laws : BarrierLaws env) (cap : Nat) (state : Committed) (bundle : Bundle)
  (backup : Bytes) (exported : BackupOf env inputs cap state bundle backup)

include exported

theorem check_backup_ok : checkBackup env state.snapshot.generation cap state.snapshot
    ⟨2, [.checkpoint bundle.checkpoint], bundle.journal.length, false⟩ bundle.journal.length state.snapshot.generation
      state.ledger = .ok () := by
  have size := exported.valid.ledger.size
  have within := exported.within
  obtain ⟨validates, gen, _, _⟩ := checkpoint_validates exported.valid exported.taken
  unfold checkBackup
  rw [if_neg (by simp; omega), committed_validates exported.valid]
  simp only [bind, Except.bind, validates, gen]
  exact if_neg (by simp)

include laws

variable {env inputs cap state bundle backup} in
theorem decode_backup_ok : decodeBackup env backup cap =
    .ok ⟨bundle.snapshot, bundle.journal, bundle.ledger, state.snapshot, state.ledger, 1⟩ := by
  have valid := exported.valid
  have small := max_records_small
  have bounded := valid.bounded
  have size := valid.ledger.size
  obtain ⟨snapshotFits, journalFits, ledgerFits, _, _, _, body, wroteSnapshot, wroteJournal, wroteLedger,
    bodyEq, _, backupEq⟩ := encode_backup_eq exported.encoded
  obtain ⟨_, snapshotWritten⟩ := exported.snapshot
  obtain ⟨_, ledgerWritten⟩ := exported.ledger
  obtain ⟨_, recordWritten⟩ := exported.record
  have digestLength : (digest32 env backupDomain body).bytes.length = 32 := Digest.size _
  have bodyLength : 28 ≤ body.length := by
    have first := (write_bytes_eq wroteSnapshot).2
    have second := (write_bytes_eq wroteJournal).2
    have third := (write_bytes_eq wroteLedger).2
    have magic : backupMagic.length = 4 := rfl
    rw [bodyEq, first, second, third]
    simp only [length_append, little_length, magic]
    omega
  have signed : backup.take (backup.length - 32) = body := by
    rw [backupEq, length_append, digestLength, Nat.add_sub_cancel, take_left]
  have signature : backup.drop (backup.length - 32) = (digest32 env backupDomain body).bytes := by
    rw [backupEq, length_append, digestLength, Nat.add_sub_cancel, drop_left]
  have length : backup.length = body.length + 32 := by rw [backupEq, length_append, digestLength]
  have read : Reader.complete .corruptState readBackup body = .ok (state.snapshot.generation, bundle.snapshot, bundle.journal, bundle.ledger) := by
    rw [bodyEq]
    exact Reader.complete_reads _ _ _ _ (reads_backup _ (by omega) snapshotFits journalFits ledgerFits wroteSnapshot
      wroteJournal wroteLedger)
  have snapshotRead := decode_sealed_snapshot laws snapshotWritten
    (committed_snapshot_ok valid) snapshotFits
  have ledgerRead := decode_sealed_ledger laws ledgerWritten (by omega)
    (committed_records_ok valid) (by omega) ledgerFits
  have eventOk := (checkpoint_validates valid exported.taken).2.2.2
  have journalRead : decodeJournalFrames env bundle.journal = .ok ⟨2, [.checkpoint bundle.checkpoint], bundle.journal.length, false⟩ := by
    have fits : bundle.record.length ≤ maxFileBytes := by
      simp only [Bundle.journal, length_append] at journalFits
      omega
    have decoded := decode_journal laws [.checkpoint bundle.checkpoint] bundle.record [] ⟨_, bundle.record, [], recordWritten, by simp,
      rfl⟩ (by simpa using eventOk) (.inl rfl) fits (show 1 ≤ maxRecords by decide)
    have journalLength : bundle.journal.length = 4 + bundle.record.length := length_append
    rw [append_nil] at decoded
    rw [journalLength]
    exact decoded
  unfold decodeBackup
  rw [if_neg (by omega), signed, signature, if_neg (by simp)]
  simp only [read, snapshotRead, ledgerRead, journalRead, bind, Except.bind, check_backup_ok env inputs cap state bundle backup exported]
  rfl

end

theorem export_ends {env : Env} {inputs : List Bytes} (free : CollisionFree env inputs) {cap : Nat} {state : Committed}
    {events : List JournalEvent} {m : Machine} (live : Live env inputs cap state events m.service m.disk)
    (resolved : m.service.unresolved = false) :
    Ends (exportBackup env) m (fun res _ => ∀ backup, res = .ok backup →
      ∃ bundle, BackupOf env inputs cap state bundle backup) := by
  have valid := settled_ok free live.settled
  obtain ⟨point, taken⟩ := checkpoint_taken valid
  unfold exportBackup
  apply ends_read
  rw [if_neg (by simp [resolved]), live.snapshot, live.ledger]
  refine ends_lift _ () _ m _ (committed_validates valid) ?_
  cases snapshotWritten : sealedSnapshot env m.nonce state.snapshot with
  | error => exact nofun
  | ok snap =>
    refine ends_lift _ snap _ m _ rfl ?_
    cases ledgerWritten : sealedLedger env (m.nonce + 1) state.snapshot.generation state.ledger with
    | error => exact nofun
    | ok ledger =>
      refine ends_lift _ ledger _ m _ rfl ?_
      refine ends_lift _ point _ m _ taken ?_
      cases recordWritten : sealedJournalRecord env (m.nonce + 2) 1 (.checkpoint point) with
      | error => exact nofun
      | ok record =>
        refine ends_lift _ record _ m _ rfl ?_
        apply ends_modify
        intro backup encoded
        exact ⟨⟨snap, ledger, record, point⟩, valid, live.within, taken, ⟨_, snapshotWritten⟩, ⟨_, ledgerWritten⟩, ⟨_, recordWritten⟩, encoded⟩

theorem rebuild_reconciliation_ok (records : List (RequestKey × LedgerRecord))
    (built : ExtTreeMap Str ReconciliationStatus)
    (valid : ∀ entry ∈ records, validateLedgerRecord entry.2 = .ok ()) :
      ∃ rebuilt, rebuildReconciliation records built = .ok rebuilt := by
  induction records generalizing built with
  | nil => exact ⟨built, rfl⟩
  | cons entry _ ih =>
    obtain ⟨rebuilt, rest⟩ := ih (built.insert entry.2.recoveryReference (.committed entry.2.generation))
      (fun other member => valid other (by simp [member]))
    refine ⟨rebuilt, ?_⟩
    rw [rebuildReconciliation, valid entry (by simp)]
    exact rest

def Bundle.written (bundle : Bundle) (disk : Disk) : Nat → Disk
  | 0 => disk
  | 1 => disk.write .snapshot bundle.snapshot
  | 2 => (disk.write .snapshot bundle.snapshot).write .ledger bundle.ledger
  | _ => ((disk.write .snapshot bundle.snapshot).write .ledger bundle.ledger).write .journal bundle.journal

inductive Restored (env : Env) (inputs : List Bytes) (cap : Nat) (state : Committed) (bundle : Bundle) (allowRollback : Bool)
    (m : Machine) : Except ServiceError RestoreOutcome → Machine → Prop
  | refused (flaw : ServiceError) (reached : Machine) (disk : reached.disk = m.disk) (svc : reached.service = m.service)
      (cause : state.snapshot.generation < m.service.snapshot.generation ∧ allowRollback = false) :
      Restored env inputs cap state bundle allowRollback m (.error flaw) reached
  | restored (outcome : RestoreOutcome) (reached : Machine) (disk : reached.disk = bundle.written m.disk 3)
      (live : Live env inputs cap state [.checkpoint bundle.checkpoint] reached.service reached.disk)
      (resolved : reached.service.unresolved = false) :
      Restored env inputs cap state bundle allowRollback m (.ok outcome) reached
  | interrupted (flaw : ServiceError) (reached : Machine) (count : Nat) (disk : reached.disk = bundle.written m.disk count)
      (planned : m.plan ≠ none) (poisoned : reached.service.unresolved = true) :
      Restored env inputs cap state bundle allowRollback m (.error flaw) reached

variable (env : Env) (inputs : List Bytes) (laws : BarrierLaws env) (cap : Nat) (state : Committed) (bundle : Bundle)
  (backup : Bytes) (exported : BackupOf env inputs cap state bundle backup)

include exported

variable {env inputs cap state bundle backup} in
theorem backup_on_disk : OnDisk env ⟨state.snapshot, [.checkpoint bundle.checkpoint], state.ledger⟩ bundle.record []
    ⟨bundle.snapshot, bundle.journal, bundle.ledger⟩ := by
  obtain ⟨snapshotFits, journalFits, ledgerFits, _⟩ := encode_backup_eq exported.encoded
  obtain ⟨nonce, recordWritten⟩ := exported.record
  refine ⟨exported.snapshot, snapshotFits, ?_, ledgerFits, by simp [Bundle.journal], ?_, .inl rfl, journalFits⟩
  · rw [exported.valid.ledger.size]
    exact exported.ledger
  · exact ⟨nonce, bundle.record, [], recordWritten, by simp, rfl⟩

include laws

variable {env inputs cap state bundle backup} in
theorem restore_ends (allowRollback : Bool) (m : Machine) (resolved : m.service.unresolved = false)
    (retained : m.service.maxRetainedRequests = cap) (limit : m.service.journalLimit = maxFileBytes) :
    Ends (restoreBackup env backup allowRollback) m (Restored env inputs cap state bundle allowRollback m) := by
  have decoded := decode_backup_ok laws exported
  have stored := backup_on_disk exported
  obtain ⟨rebuilt, rebuilds⟩ := rebuild_reconciliation_ok state.ledger.toList ∅ (fun entry listed =>
    (exported.valid.ledger.records _ _ (mem_ledger listed)).1.validRecord)
  unfold restoreBackup
  apply ends_read
  rw [if_neg (by simp [resolved])]
  refine ends_lift _ _ _ m _ (by rw [retained]; exact decoded) ?_
  by_cases older : state.snapshot.generation < m.service.snapshot.generation ∧ allowRollback = false
  · rw [if_pos older]
    exact .refused _ _ rfl rfl older
  · rw [if_neg older]
    apply ends_modify
    refine ends_bind _ (atomic_write_ends _ .snapshot stored.snapshotFits)
      (fun flaw reached ended => ?_) (fun _ first firstEnded => ?_)
    · obtain ⟨svc, steady, ⟨wrong, _⟩ | ⟨_, _, disk | disk⟩⟩ := ended
      · cases wrong
      · exact .interrupted flaw reached 0 disk (fun clean => nomatch (steady.faultless clean).1) (by rw [svc])
      · exact .interrupted flaw reached 1 disk (fun clean => nomatch (steady.faultless clean).1) (by rw [svc])
    · obtain ⟨firstService, firstSteady, ⟨_, firstDisk⟩ | ⟨_, wrong, _⟩⟩ := firstEnded
      swap
      · cases wrong
      refine ends_bind _ (atomic_write_ends _ .ledger stored.ledgerFits)
        (fun flaw reached ended => ?_) (fun _ second secondEnded => ?_)
      · obtain ⟨svc, steady, ⟨wrong, _⟩ | ⟨_, _, disk | disk⟩⟩ := ended
        · cases wrong
        · exact .interrupted flaw reached 1 (by rw [disk, firstDisk]; rfl)
            (fun clean => nomatch (steady.faultless (firstSteady.faultless clean).2).1) (by rw [svc, firstService])
        · exact .interrupted flaw reached 2 (by rw [disk, firstDisk]; rfl)
            (fun clean => nomatch (steady.faultless (firstSteady.faultless clean).2).1) (by rw [svc, firstService])
      · obtain ⟨secondService, secondSteady, ⟨_, secondDisk⟩ | ⟨_, wrong, _⟩⟩ := secondEnded
        swap
        · cases wrong
        refine ends_bind _ (atomic_write_ends _ .journal stored.journalFits)
          (fun flaw reached ended => ?_) (fun _ third thirdEnded => ?_)
        · obtain ⟨svc, steady, ⟨wrong, _⟩ | ⟨_, _, disk | disk⟩⟩ := ended
          · cases wrong
          · exact .interrupted flaw reached 2 (by rw [disk, secondDisk, firstDisk]; rfl)
              (fun clean => nomatch (steady.faultless (secondSteady.faultless (firstSteady.faultless clean).2).2).1)
              (by rw [svc, secondService, firstService])
          · exact .interrupted flaw reached 3 (by rw [disk, secondDisk, firstDisk]; rfl)
              (fun clean => nomatch (steady.faultless (secondSteady.faultless (firstSteady.faultless clean).2).2).1)
              (by rw [svc, secondService, firstService])
        · obtain ⟨thirdService, _, ⟨_, thirdDisk⟩ | ⟨_, wrong, _⟩⟩ := thirdEnded
          swap
          · cases wrong
          apply ends_modify
          refine ends_lift _ rebuilt _ _ _ rebuilds ?_
          apply ends_modify
          have files : third.disk = ⟨bundle.snapshot, bundle.journal, bundle.ledger⟩ := by rw [thirdDisk, secondDisk, firstDisk]; rfl
          refine .restored _ _ (by rw [thirdDisk, secondDisk, firstDisk]; rfl) ⟨rfl, rfl, rfl, ?_, ?_, ?_,
            .checkpoint state _ exported.valid exported.taken, ⟨bundle.record, ?_⟩, exported.within⟩ rfl
          · change bundle.journal.length = third.disk.journal.length
            rw [files]
          · change third.service.journalLimit = _
            rw [thirdService, secondService, firstService]
            exact limit
          · change third.service.maxRetainedRequests = _
            rw [thirdService, secondService, firstService]
            exact retained
          · change OnDisk env _ _ _ third.disk
            rw [files]
            exact stored

theorem restore_first_only (allowRollback : Bool) (m : Machine) (resolved : m.service.unresolved = false)
    (retained : m.service.maxRetainedRequests = cap) (planned : m.plan = some (1, 0))
    (allowed : ¬ (state.snapshot.generation < m.service.snapshot.generation ∧ allowRollback = false)) :
    (restoreBackup env backup allowRollback m).2.disk = bundle.written m.disk 1 := by
  have decoded := decode_backup_ok laws exported
  have stored := backup_on_disk exported
  obtain ⟨disk, _, nonce, svc⟩ := m
  cases planned
  simp only at resolved retained allowed
  change Ends (restoreBackup env backup allowRollback) ⟨disk, some (1, 0), nonce, svc⟩
    (fun _ reached => reached.disk = disk.write .snapshot bundle.snapshot)
  unfold restoreBackup
  apply ends_read
  rw [if_neg (by simp [resolved])]
  refine ends_lift _ _ _ _ _ (by rw [retained]; exact decoded) ?_
  rw [if_neg allowed]
  apply ends_modify
  refine ends_bind (fun res reached => res = .ok () ∧ reached.plan = some (0, 0) ∧
    reached.disk = disk.write .snapshot bundle.snapshot) ?_ (fun _ _ wrong => nomatch wrong.1) (fun _ first passed => ?_)
  · unfold atomicWrite
    rw [if_neg (Nat.not_lt.mpr stored.snapshotFits)]
    exact ⟨rfl, rfl, rfl⟩
  · refine ends_bind (fun res reached => (∃ flaw, res = .error flaw) ∧ reached.disk = first.disk) ?_
      (fun _ _ ended => by rw [ended.2]; exact passed.2.2) (fun _ _ wrong => nomatch wrong.1)
    obtain ⟨_, _, _, _⟩ := first
    obtain ⟨_, rfl, _⟩ := passed
    unfold atomicWrite
    rw [if_neg (Nat.not_lt.mpr stored.ledgerFits)]
    exact ⟨⟨_, rfl⟩, rfl⟩

end HeptaBao.Durable
