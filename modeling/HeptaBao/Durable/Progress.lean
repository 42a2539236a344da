import HeptaBao.Durable.Lineage
import HeptaBao.Durable.Restore

namespace HeptaBao.Durable

open Wire Std Exec Action List

variable (env : Env)

def Tight : Prop :=
  ∀ nonce ctx plaintext sealed, env.sealBytes nonce ctx plaintext = some sealed → sealed.length ≤ 64 + plaintext.length

structure Small (cap : Nat) (state : Committed) (events : List JournalEvent) : Prop where
  generation : state.snapshot.generation < 8
  count : events.length ≤ 32
  room : state.snapshot.generation < cap

def smallBytes : Nat := 16 * 1024 * 1024

section

variable (env : Env) (laws : BarrierLaws env) (tight : Tight env)

include laws tight

theorem seal_with_tight (nonce : Nat) (ctx plaintext : Bytes) :
    ∃ sealed, sealWith env nonce ctx plaintext = .ok sealed ∧ sealed.length ≤ 64 + plaintext.length := by
  obtain ⟨sealed, done, _⟩ := laws.opens nonce ctx plaintext
  exact ⟨sealed, by rw [sealWith, done], tight nonce ctx plaintext sealed done⟩

theorem sealed_file_tight (magic domain ctx : Bytes) (nonce gen : Nat) (plaintext : Bytes)
    (small : plaintext.length + 128 ≤ smallBytes) (short : magic.length = 4) :
    ∃ bytes, sealedFile env magic domain ctx nonce gen plaintext = .ok bytes ∧ bytes.length ≤ smallBytes := by
  have limit : smallBytes = 16777216 := rfl
  obtain ⟨sealed, done, _⟩ := seal_with_tight env laws tight nonce ctx plaintext
  obtain ⟨_, wrote, _⟩ := write_bytes_length sealed (by omega)
  refine ⟨_, by simp only [sealedFile, done, wrote, bind, Except.bind]; rfl, ?_⟩
  simp only [length_append, little_length, Digest.size]
  omega

theorem sealed_snapshot_small (nonce : Nat) (snap : Snapshot) (valid : SnapshotOk snap) (few : snap.entries.size ≤ 8) :
    ∃ bytes, sealedSnapshot env nonce snap = .ok bytes ∧ bytes.length ≤ smallBytes := by
  have limit : smallBytes = 16777216 := rfl
  have entry : entryBytes = 1053708 := rfl
  have mark : markerBytes = 1624 := rfl
  obtain ⟨plaintext, encoded, _⟩ := encode_snapshot_length snap valid
  have total : snap.entries.size * entryBytes ≤ 8 * entryBytes := Nat.mul_le_mul_right _ few
  obtain ⟨bytes, done, fits⟩ := sealed_file_tight env laws tight snapshotMagic snapshotFrameDomain
    (snapshotContext snap.generation) nonce snap.generation plaintext (by omega) rfl
  exact ⟨bytes, by rw [sealedSnapshot, encoded]; exact done, fits⟩

theorem sealed_ledger_small (nonce gen : Nat) (ledger : Ledger) (few : ledger.size ≤ 8)
    (valid : ∀ (key : RequestKey) (record : LedgerRecord), ledger[key]? = some record → RecordOk key record) :
    ∃ bytes, sealedLedger env nonce gen ledger = .ok bytes ∧ bytes.length ≤ smallBytes := by
  have limit : smallBytes = 16777216 := rfl
  have records : maxRecords = 1000000 := rfl
  have mark : markerBytes = 1624 := rfl
  obtain ⟨plaintext, encoded, _⟩ := encode_ledger_length ledger valid (by omega)
  have total : ledger.size * markerBytes ≤ 8 * markerBytes := Nat.mul_le_mul_right _ few
  obtain ⟨bytes, done, fits⟩ := sealed_file_tight env laws tight ledgerMagic ledgerFrameDomain (ledgerContext gen) nonce gen
    plaintext (by omega) rfl
  exact ⟨bytes, by rw [sealedLedger, encoded]; exact done, fits⟩

variable {env} in
theorem sealed_record_small (nonce seq : Nat) (event : JournalEvent) (valid : EventOk event) :
    ∃ record, sealedJournalRecord env nonce seq event = .ok record ∧ record.length ≤ 2000 := by
  have mark : markerBytes = 1624 := rfl
  obtain ⟨plaintext, encoded, _⟩ := encode_event_length event valid
  obtain ⟨sealed, done, _⟩ := seal_with_tight env laws tight nonce (journalContext seq) plaintext
  obtain ⟨body, wrote, _⟩ := write_bytes_length sealed (by omega)
  have frameLength : (journalFrame env seq body).length = 8 + body.length + 32 := by
    simp only [journalFrame, length_append, little_length, Digest.size]
  have count : encodeCount (journalFrame env seq body).length = .ok (little 4 (journalFrame env seq body).length) := if_pos (by omega)
  refine ⟨little 4 (journalFrame env seq body).length ++ journalFrame env seq body, ?_, ?_⟩
  · simp only [sealedJournalRecord, encoded, done, wrote, count, bind, Except.bind]
    rfl
  · rw [length_append, little_length, frameLength]
    omega

theorem frames_small (seq : Nat) (events : List JournalEvent) (body : Bytes) (frames : Frames env seq events body)
    (valid : ∀ event ∈ events, EventOk event) : body.length ≤ events.length * 2000 := by
  induction events generalizing seq body with
  | nil =>
    rw [show body = [] from frames]
    simp
  | cons event _ ih =>
    obtain ⟨nonce, _, rest, written, rfl, later⟩ := frames
    obtain ⟨_, wrote, _⟩ := sealed_record_small laws tight nonce seq event (valid event (by simp))
    rw [written] at wrote
    cases wrote
    have restLength := ih (seq + 1) rest later (fun other member => valid other (by simp [member]))
    simp only [length_append, length_cons]
    omega

section

variable (inputs : List Bytes) (free : CollisionFree env inputs) (cap : Nat) (state : Committed) (events : List JournalEvent)
  (svc : Service) (disk : Disk) (live : Live env inputs cap state events svc disk) (small : Small cap state events)

include live small

omit laws tight in
theorem small_next_marker (req : Request) : svc.nextMarker env (req.binding env) =
    .ok (nextMarkerOf env state events.length req) ∧
      svc.terminalSequence = .ok (events.length + 2) := by
  have few := small.generation
  have count := small.count
  refine ⟨?_, ?_⟩
  · unfold Service.nextMarker
    rw [live.snapshot, live.sequence, checked_add_small _ _ (by omega), checked_add_small _ _ (by omega), binding_key]
    rfl
  · unfold Service.terminalSequence
    rw [live.sequence, checked_add_small _ _ (by omega)]

variable {env inputs cap state events svc disk} in
theorem small_journal : disk.journal.length ≤ 64004 := by
  have count := small.count
  obtain ⟨body, stored⟩ := live.stored
  have valid := (settled_events live.settled).1
  have length := frames_small env laws tight 1 events body stored.frames valid
  have magic : journalMagic.length = 4 := rfl
  rw [stored.journal]
  simp only [length_append, length_nil]
  omega

include free

theorem small_admits (req : Request) (nonce : Nat) (valid : req.validate = .ok ())
    (fresh : state.ledger[req.key]? = none) (hashed : hashedBy env svc req ⊆ inputs) :
    ∃ admission, svc.examine env nonce (req.binding env) req.value = .ok (.inr admission) := by
  have few := small.generation
  have count := small.count
  have records : maxRecords = 1000000 := rfl
  have limit : maxFileBytes = 67108864 := rfl
  have smallLimit : smallBytes = 16777216 := rfl
  have ok := settled_ok free live.settled
  have size := ok.ledger.size
  have journal := small_journal laws tight live small
  have legal := next_admissible free cap state events svc disk req live valid fresh (by omega) hashed (by omega)
  have entriesOk := apply_entries_ok valid ok.entries
  have entriesSize := entriesOk.size
  obtain ⟨markerIs, terminalIs⟩ := small_next_marker env inputs cap state events svc disk live small req
  have gen : (nextMarkerOf env state events.length req).generation = state.snapshot.generation + 1 := rfl
  have sameKey : (nextMarkerOf env state events.length req).key = req.key := rfl
  generalize nextMarkerOf env state events.length req = mark at legal markerIs gen sameKey
  rw [← gen] at entriesOk
  have next := commit_ok free ok legal entriesOk
  have nextSize : (state.commit mark (req.apply state.snapshot.entries)).ledger.size = mark.generation := next.ledger.size
  have markerOk := admissible_marker legal
  obtain ⟨snapshotBytes, snapshotWritten, _⟩ := sealed_snapshot_small env laws tight nonce _
    (committed_snapshot_ok next) (show (req.apply state.snapshot.entries).size ≤ 8 by omega)
  obtain ⟨ledgerBytes, ledgerWritten, _⟩ := sealed_ledger_small env laws tight (nonce + 1) mark.generation _
    (show (state.commit mark (req.apply state.snapshot.entries)).ledger.size ≤ 8 by omega) (committed_records_ok next)
  obtain ⟨intent, intentWritten, _⟩ := sealed_record_small laws tight (nonce + 2) (events.length + 1) (.intent mark) markerOk
  obtain ⟨commit, commitWritten, _⟩ := sealed_record_small laws tight (nonce + 3) (events.length + 2) (.commit mark) markerOk
  simp only [Committed.commit, sameKey] at snapshotWritten ledgerWritten
  have reserved : ∀ candidate candidateLedger,
      svc.reserves ⟨mark, candidate, candidateLedger, snapshotBytes, ledgerBytes, intent, commit⟩ = .ok () := by
    intro candidate candidateLedger
    unfold Service.reserves
    rw [live.sequence, live.bytes, live.limit, if_neg (by simp only; omega), if_neg (by omega), checked_add_small _ _ (by simp only; omega)]
    simp only
    rw [checked_add_small _ _ (by omega)]
    simp only
    rw [if_neg (by omega)]
  have room := small.room
  have prepared : svc.prepare env nonce (req.binding env) req.value = .ok ⟨mark,
      ⟨mark.generation, req.apply state.snapshot.entries, some mark⟩, state.ledger.insert req.key (recordOf mark),
      snapshotBytes, ledgerBytes, intent, commit⟩ := by
    simp only [Service.prepare, markerIs, terminalIs, mutate_entries, live.snapshot, live.ledger, live.sequence, binding_key,
      snapshotWritten, ledgerWritten, intentWritten, commitWritten, reserved, bind, Except.bind]
    rfl
  have examined : ∀ admission, svc.prepare env nonce (req.binding env) req.value = .ok admission →
      svc.examine env nonce (req.binding env) req.value = .ok (.inr admission) := by
    intro admission done
    unfold Service.examine
    rw [binding_key, live.ledger, fresh]
    simp only
    rw [live.retained, size, if_neg (by omega), done]
    rfl
  exact ⟨_, examined _ prepared⟩

end

end

theorem encode_backup_small (gen : Nat) (snap journal ledger : Bytes) (snapshotFits : snap.length ≤ smallBytes)
    (journalFits : journal.length ≤ smallBytes) (ledgerFits : ledger.length ≤ smallBytes) :
    ∃ backup, encodeBackup env gen snap journal ledger = .ok backup := by
  have limit : maxFileBytes = 67108864 := rfl
  have backupLimit : maxBackupBytes = 136314880 := rfl
  have smallLimit : smallBytes = 16777216 := rfl
  have magic : backupMagic.length = 4 := rfl
  obtain ⟨snapshotPart, wroteSnapshot, _⟩ := write_bytes_length snap (by omega)
  obtain ⟨journalPart, wroteJournal, _⟩ := write_bytes_length journal (by omega)
  obtain ⟨ledgerPart, wroteLedger, _⟩ := write_bytes_length ledger (by omega)
  have total : ¬ maxBackupBytes < (backupMagic ++ (little 2 backupVersion ++ (little 2 0 ++ (little 8 gen ++
      (snapshotPart ++ (journalPart ++ ledgerPart)))))).length + 32 := by
    simp only [length_append, little_length, magic]
    omega
  rw [encodeBackup, if_neg (by omega), wroteSnapshot, wroteJournal, wroteLedger]
  exact ⟨_, if_neg total⟩

structure Standing (env : Env) (inputs : List Bytes) (cap : Nat) (world : World) (state : Committed) (events : List JournalEvent)
    (svc : Service) : Prop where
  found : world.live = some svc
  resolved : svc.unresolved = false
  live : Live env inputs cap state events svc world.disk

theorem standing_hashed (inputs : List Bytes) (cap : Nat) (world : World) (state : Committed)
    (events : List JournalEvent) (svc : Service) (standing : Standing env inputs cap world state events svc)
    (req : Request) : hashedBy env svc req = hashedAt env (state.snapshot.generation + 1) (events.length + 1) req := by
  unfold hashedBy
  rw [standing.live.snapshot, standing.live.sequence]

section

variable (env : Env) (laws : BarrierLaws env) (tight : Tight env) (inputs : List Bytes)

include laws tight

theorem created_stands (cap nonce : Nat) (validCap : validateCapacity cap = .ok ()) :
    ∃ world svc, Created env cap nonce world ∧ Standing env inputs cap world Committed.empty [] svc ∧
      world.hashed = [] ∧ world.backups = [] ∧ world.calls = [] := by
  have limit : maxFileBytes = 67108864 := rfl
  have smallLimit : smallBytes = 16777216 := rfl
  obtain ⟨snap, snapshotWritten, _⟩ := sealed_snapshot_small env laws tight nonce emptySnapshot
    (committed_snapshot_ok (empty_committed_ok env inputs)) (by decide)
  obtain ⟨ledger, ledgerWritten, _⟩ := sealed_ledger_small env laws tight (nonce + 1) 0 ∅ (by decide) (by simp)
  have made : createNew env cap nonce = .ok (⟨snap, journalMagic, ledger⟩,
      ⟨emptySnapshot, ∅, ∅, 0, journalMagic.length, maxFileBytes, cap, false⟩) := by
    simp only [createNew, validCap, snapshotWritten, ledgerWritten, bounded_ok snap (by omega), bounded_ok ledger (by omega), bind, Except.bind]
    rfl
  have created : Created env cap nonce ⟨⟨snap, journalMagic, ledger⟩, nonce + 2,
      some ⟨emptySnapshot, ∅, ∅, 0, journalMagic.length, maxFileBytes, cap, false⟩, [], [], []⟩ := ⟨_, _, made, rfl⟩
  obtain ⟨_, tracks, _⟩ := @created_tracks env inputs cap nonce _ created
  exact ⟨_, _, created, ⟨rfl, rfl, tracks.live _ rfl rfl⟩, rfl, rfl, rfl⟩

variable (free : CollisionFree env inputs) (cap : Nat) (validCap : validateCapacity cap = .ok ()) (world : World)
  (state : Committed) (events : List JournalEvent) (svc : Service)
  (standing : Standing env inputs cap world state events svc) (small : Small cap state events)

include free standing

variable {env inputs cap world state events svc} in
theorem submit_issues (small : Small cap state events) {req : Request} (valid : req.validate = .ok ())
    (fresh : state.ledger[req.key]? = none) (hashed : hashedBy env svc req ⊆ inputs) (plan : Plan) :
    ∃ admission, svc.examine env world.nonce (req.binding env) req.value = .ok (.inr admission) ∧
      Prepared env state events.length world.disk.journal.length req admission ∧
        issuedBy env world (.submit req plan) = some (nextMarkerOf env state events.length req) := by
  obtain ⟨admission, examined⟩ := small_admits env laws tight inputs free cap state events svc world.disk standing.live small
    req world.nonce valid fresh hashed
  have prepared : Prepared env state events.length world.disk.journal.length req admission := by
    have preparedEq := examined
    unfold Service.examine at preparedEq
    rw [binding_key, standing.live.ledger, fresh] at preparedEq
    simp only at preparedEq
    split at preparedEq
    · cases preparedEq
    · obtain ⟨_, preparedEq, same⟩ := bind_ok preparedEq
      cases same
      exact prepare_ok standing.live preparedEq
  refine ⟨admission, examined, prepared, ?_⟩
  simp only [issuedBy, standing.found, issuedMarker, valid, standing.resolved, examined, prepared.marker, Bool.false_eq_true, if_false]

variable {env inputs cap world state events svc} in
theorem submit_stands (validCap : validateCapacity cap = .ok ()) (small : Small cap state events) {req : Request}
    (valid : req.validate = .ok ()) (fresh : state.ledger[req.key]? = none) (hashed : hashedBy env svc req ⊆ inputs) :
    ∃ service', Standing env inputs cap (step env cap world (.submit req none)) (nextState env state events.length req)
        (events ++ [.intent (nextMarkerOf env state events.length req),
          .commit (nextMarkerOf env state events.length req)]) service' ∧
      service'.reconciliation = svc.reconciliation.insert (nextMarkerOf env state events.length req).recoveryReference
        (.committed (state.snapshot.generation + 1)) ∧
      (step env cap world (.submit req none)).hashed = world.hashed ++ hashedBy env svc req ∧
      (step env cap world (.submit req none)).backups = world.backups := by
  obtain ⟨_, _, _, issued⟩ := submit_issues laws tight free standing small valid
    fresh hashed none
  have ended := submit_ends env inputs laws free cap state events req ⟨world.disk, none, world.nonce, svc⟩ standing.live
    standing.resolved validCap hashed
  simp only [issuedBy, standing.found] at issued
  unfold Ends at ended
  simp only [step, standing.found]
  generalize req.submit env ⟨world.disk, none, world.nonce, svc⟩ = outcome at ended
  obtain ⟨_, reached⟩ := outcome
  cases ended with
  | refused _ _ refused =>
    rw [issued] at refused
    cases refused.issued
  | unknown _ _ _ _ _ _ _ planned => exact absurd rfl planned
  | committed _ _ markerEq _ _ _ _ next resolved reconciliation =>
    subst markerEq
    exact ⟨reached.service, ⟨rfl, resolved, next⟩, reconciliation, trivial, trivial⟩

omit laws tight free standing in
theorem publish_stops (admission : Admission) (m : Machine) (planned : m.plan = some (1, 0))
    (limit : m.service.journalLimit = maxFileBytes)
    (records : m.service.journalSequence + 2 ≤ maxRecords)
    (snapshotFits : admission.snapshotBytes.length ≤ maxFileBytes)
    (journalFits : m.service.journalBytes + admission.intent.length ≤ maxFileBytes) :
    Ends (publish admission) m (fun res reached => (∃ flaw, res = .error flaw) ∧
      reached.disk = m.disk.write .journal (m.disk.journal ++ admission.intent)) := by
  have bound : maxFileBytes = 67108864 := rfl
  have count : maxRecords = 1000000 := rfl
  obtain ⟨disk, _, _, svc⟩ := m
  cases planned
  simp only at limit records journalFits
  unfold publish
  refine ends_bind (fun res reached => res = .ok () ∧ reached.plan = some (0, 0) ∧
    reached.disk = disk.write .journal (disk.journal ++ admission.intent)) ?_ (fun _ _ wrong => nomatch wrong.1)
    (fun _ reached passed => ?_)
  · unfold appendFrame
    apply ends_read
    refine ends_lift _ (svc.journalSequence + 1) _ _ _ (by rw [checked_add_small _ _ (by simp only; omega)]) ?_
    refine ends_lift _ (svc.journalBytes + admission.intent.length) _ _ _ (by rw [checked_add_small _ _ (by simp only; omega)]) ?_
    rw [if_neg (by simp only [limit]; omega)]
    exact ⟨rfl, rfl, rfl⟩
  · obtain ⟨_, _, _, _⟩ := reached
    obtain ⟨_, rfl, rfl⟩ := passed
    refine ends_bind (fun res reached => (∃ flaw, res = .error flaw) ∧
      reached.disk = disk.write .journal (disk.journal ++ admission.intent)) ?_ (fun flaw _ stopped => ⟨⟨flaw, rfl⟩, stopped.2⟩)
      (fun _ _ wrong => nomatch wrong.1)
    unfold atomicWrite
    rw [if_neg (by omega)]
    exact ⟨⟨_, rfl⟩, rfl⟩

variable {env inputs} in
theorem submit_leaves_intent (small : Small cap state events) (req : Request) (valid : req.validate = .ok ())
    (fresh : state.ledger[req.key]? = none) (hashed : hashedBy env svc req ⊆ inputs) : Image env inputs cap state
        ⟨state.snapshot, events ++ [.intent (nextMarkerOf env state events.length req)], state.ledger⟩
        (step env cap world (.submit req (some (1, 0)))).disk ∧
      (step env cap world (.submit req (some (1, 0)))).hashed = world.hashed ++ hashedBy env svc req := by
  obtain ⟨admission, examined, prepared, _⟩ := submit_issues laws tight free standing small valid fresh hashed none
  have live := standing.live
  have few := small.generation
  have count := small.count
  have records : maxRecords = 1000000 := rfl
  have limit : maxFileBytes = 67108864 := rfl
  have journalFits := prepared.journalFits
  have journal := small_journal laws tight live small
  have legal := next_admissible free cap state events svc world.disk req live valid fresh (by omega) hashed
    (by omega)
  have written : Ends (req.submit env) ⟨world.disk, some (1, 0), world.nonce, svc⟩ (fun _ reached =>
      reached.disk = world.disk.write .journal (world.disk.journal ++ admission.intent)) := by
    refine @submit_examined env req ⟨world.disk, some (1, 0), world.nonce, svc⟩ _ valid standing.resolved ?_ ?_ ?_
    · intro flaw wrong
      rw [examined] at wrong
      cases wrong
    · intro outcome wrong
      rw [examined] at wrong
      cases wrong
    · intro other same
      rw [examined] at same
      cases same
      unfold settle
      apply ends_modify
      refine ends_bind _ (ends_attempt (publish_stops admission _ rfl live.limit
        (by simp only [live.sequence]; omega) prepared.snapshotFits (by simp only [live.bytes]; omega))) ?_ ?_
      · rintro flaw reached ⟨_, wrong, _⟩
        cases wrong
      · rintro _ reached ⟨_, same, ⟨flaw, rfl⟩, disk⟩
        cases same
        exact disk
  obtain ⟨body, stored⟩ := live.stored
  obtain ⟨intentNonce, intentWritten⟩ := prepared.intent
  rw [prepared.marker] at intentWritten
  have appended := on_disk_append stored intentWritten (by omega)
  refine ⟨⟨.intended state events _ live.settled legal, ⟨body ++ admission.intent, [], ?_, ?_⟩,
    (live_image free live).ledgerFits, live.within⟩, ?_⟩
  · simp only [step, standing.found]
    unfold Ends at written
    rw [written]
    exact appended
  · intro mark last
    have markerOk := admissible_marker legal
    simp only [getLast?_append, getLast?_singleton, Option.some_or, Option.some.injEq, JournalEvent.intent.injEq] at last
    subst last
    obtain ⟨record, sealedAs, _⟩ := sealed_record_small laws tight 0 0 (.intent _) markerOk
    obtain ⟨_, knownAs, _⟩ := sealed_record_small laws tight intentNonce (events.length + 1) (.intent _) markerOk
    rw [intentWritten] at knownAs
    cases knownAs
    have whole := stored.journal
    rw [whole] at journal
    simp only [length_append, length_nil] at journal
    refine ⟨0, 0, record, sealedAs, ?_⟩
    rw [length_append]
    omega
  · simp only [step, standing.found]

variable {env inputs cap world state events svc} in
theorem compact_stands : ∃ point service', checkpointMarker env state.snapshot state.ledger = .ok point ∧
    Standing env inputs cap (step env cap world (.compact none)) state [.checkpoint point] service' ∧
      (step env cap world (.compact none)).hashed = world.hashed ∧ (step env cap world (.compact none)).backups =
        world.backups := by
  have limit : maxFileBytes = 67108864 := rfl
  have ok := settled_ok free standing.live.settled
  have ended := compact_ends free ⟨world.disk, none, world.nonce, svc⟩ standing.live standing.resolved
  unfold Ends at ended
  simp only [step, standing.found]
  generalize compact env ⟨world.disk, none, world.nonce, svc⟩ = outcome at ended
  obtain ⟨_, reached⟩ := outcome
  cases ended with
  | refused _ _ _ _ cause =>
    obtain ⟨point, taken⟩ := checkpoint_taken ok
    have eventOk := (checkpoint_validates ok taken).2.2.2
    obtain ⟨record, written, _⟩ := sealed_record_small laws tight world.nonce 1 _ eventOk
    have tooLong := cause point record taken written
    have magic : journalMagic.length = 4 := rfl
    rw [length_append] at tooLong
    omega
  | interrupted _ _ _ _ _ planned => exact absurd rfl planned
  | compacted _ _ point taken next resolved =>
    exact ⟨point, reached.service, taken, ⟨rfl, resolved, next⟩, trivial, trivial⟩

theorem export_stands (small : Small cap state events) :
    ∃ backup bundle, Standing env inputs cap (step env cap world .exportBackup) state events svc ∧
      BackupOf env inputs cap state bundle backup ∧
        (step env cap world .exportBackup).backups = world.backups ++ [backup] ∧
          (step env cap world .exportBackup).hashed = world.hashed := by
  have few := small.generation
  have smallLimit : smallBytes = 16777216 := rfl
  have live := standing.live
  have ok := settled_ok free live.settled
  have size := ok.ledger.size
  have entriesSize := ok.entries.size
  obtain ⟨point, taken⟩ := checkpoint_taken ok
  have eventOk := (checkpoint_validates ok taken).2.2.2
  obtain ⟨snap, snapshotWritten, snapshotFits⟩ := sealed_snapshot_small env laws tight world.nonce _
    (committed_snapshot_ok ok) (by omega)
  obtain ⟨ledger, ledgerWritten, ledgerFits⟩ := sealed_ledger_small env laws tight (world.nonce + 1) state.snapshot.generation state.ledger
    (by omega) (committed_records_ok ok)
  obtain ⟨record, recordWritten, _⟩ := sealed_record_small laws tight (world.nonce + 2) 1 _ eventOk
  have magic : journalMagic.length = 4 := rfl
  have journalLength : (journalMagic ++ record).length = 4 + record.length := by rw [length_append, magic]
  obtain ⟨backup, encoded⟩ := encode_backup_small env state.snapshot.generation snap (journalMagic ++ record) ledger snapshotFits
    (by omega) ledgerFits
  have exported : (exportBackup env ⟨world.disk, none, world.nonce, svc⟩).1 = .ok backup := by
    change Ends (exportBackup env) ⟨world.disk, none, world.nonce, svc⟩ (fun res _ => res = .ok backup)
    unfold exportBackup
    apply ends_read
    rw [if_neg (by simp [standing.resolved])]
    simp only [live.snapshot, live.ledger]
    refine ends_lift _ () _ _ _ (committed_validates ok) ?_
    refine ends_lift _ snap _ _ _ snapshotWritten ?_
    refine ends_lift _ ledger _ _ _ ledgerWritten ?_
    refine ends_lift _ point _ _ _ taken ?_
    refine ends_lift _ record _ _ _ recordWritten ?_
    apply ends_modify
    exact encoded
  refine ⟨backup, ⟨snap, ledger, record, point⟩, ?_, ⟨ok, live.within, taken, ⟨_, snapshotWritten⟩, ⟨_, ledgerWritten⟩,
    ⟨_, recordWritten⟩, encoded⟩, ?_, ?_⟩
  · simp only [step, standing.found]
    exact ⟨rfl, standing.resolved, live⟩
  · simp only [step, standing.found, exported]
    rfl
  · simp only [step, standing.found]

omit tight free in
theorem restore_stands (index : Nat) {backup : Bytes} {other : Committed} {bundle : Bundle}
    (chosen : world.backups[index]? = some backup) (exported : BackupOf env inputs cap other bundle backup) :
    ∃ service', Standing env inputs cap (step env cap world (.restoreBackup index true none)) other
      [.checkpoint bundle.checkpoint] service' ∧
      (step env cap world (.restoreBackup index true none)).hashed = world.hashed ∧
        (step env cap world (.restoreBackup index true none)).backups = world.backups := by
  have ended := restore_ends laws exported true ⟨world.disk, none, world.nonce, svc⟩
    standing.resolved standing.live.retained standing.live.limit
  unfold Ends at ended
  simp only [step, standing.found, chosen]
  generalize restoreBackup env backup true ⟨world.disk, none, world.nonce, svc⟩ = outcome at ended
  obtain ⟨_, reached⟩ := outcome
  cases ended with
  | refused _ _ _ _ cause => cases cause.2
  | interrupted _ _ _ _ planned => exact absurd rfl planned
  | restored _ _ _ next resolved => exact ⟨reached.service, ⟨rfl, resolved, next⟩, trivial, trivial⟩

end

variable {inputs : List Bytes} {state : Committed} {mark : CommitMarker}

theorem settled_last_commit {env : Env} {events : List JournalEvent}
    (settled : Settled env inputs state (events ++ [.commit mark])) : state.snapshot.lastCommit = some mark := by
  generalize shape : events ++ [JournalEvent.commit mark] = journal at settled
  cases settled with
  | fresh => simp at shape
  | checkpoint | abort =>
    have last := congrArg List.getLast? shape
    simp at last
  | commit =>
    have last := congrArg List.getLast? shape
    simp only [getLast?_append, getLast?_singleton, getLast?_cons_cons, Option.some_or, Option.some.injEq, JournalEvent.commit.injEq] at last
    rw [last]
    rfl

theorem admissible_unrecorded {env : Env} (free : CollisionFree env inputs) {count : Nat}
    (valid : CommittedOk env inputs state) (legal : Admissible env inputs state count mark)
    {key : RequestKey} {record : LedgerRecord} (recorded : state.ledger[key]? = some record) :
    record.recoveryReference ≠ mark.recoveryReference := by
  intro same
  obtain ⟨_, issued⟩ := valid.issued key record recorded
  rw [same] at issued
  have generations := (issued_injective free issued legal.issued).2.1
  have bounded := (valid.ledger.records key record recorded).2
  have next := legal.generation
  omega

theorem reopen_aborts {env : Env} (laws : BarrierLaws env) (free : CollisionFree env inputs) {cap : Nat}
    (validCap : validateCapacity cap = .ok ()) (world : World) (state : Committed) (events : List JournalEvent)
    (mark : CommitMarker) (settled : Settled env inputs state events)
    (legal : Admissible env inputs state events.length mark)
    (image : Image env inputs cap state ⟨state.snapshot, events ++ [.intent mark], state.ledger⟩ world.disk) :
    ∃ svc, Standing env inputs cap (step env cap world (.reopen none)) state (events ++ [.intent mark, .abort mark])
      svc ∧
      svc.reconcile mark.recoveryReference = .aborted ∧ (step env cap world (.reopen none)).hashed = world.hashed := by
  have valid := settled_ok free settled
  obtain ⟨files, _, closes, succeeds, reopened⟩ := reopen_recovers laws free none world.nonce
    validCap image
  obtain ⟨svc, opened⟩ := succeeds rfl
  have known := reopened svc opened
  have journal : files.events = events ++ [.intent mark, .abort mark] := by
    rcases closes with same | ⟨published, other, last, longer⟩
    · have noIntent := settled_no_intent known.live.settled mark
      rw [same] at noIntent
      exact absurd (by simp) noIntent
    · simp only [getLast?_append, getLast?_singleton, Option.some_or, Option.some.injEq, JournalEvent.intent.injEq] at last
      subst last
      cases published with
      | false => simpa [closing] using longer
      | true =>
        have committed := known.live.settled
        rw [longer] at committed
        have lastCommit := settled_last_commit committed
        have next := legal.generation
        rcases valid.frontier with ⟨_, none⟩ | ⟨key, record, recorded, newest, frontier⟩
        · rw [lastCommit] at none
          cases none
        · rw [lastCommit] at frontier
          have same := congrArg (Option.map CommitMarker.generation) frontier
          simp only [Option.map_some, Option.some.injEq, markerOf] at same
          omega
  refine ⟨svc, ⟨?_, known.resolved, ?_⟩, ?_, rfl⟩
  · simp only [step, opened]
    rfl
  · rw [← journal]
    exact known.live
  · obtain ⟨_, aborts, same⟩ := known.reconciles
    have listed := (aborts mark.recoveryReference .aborted).mpr ⟨rfl, mark, by rw [journal]; simp, rfl⟩
    unfold Service.reconcile
    rw [same]
    have apart : ∀ entry ∈ (markersOf state.ledger).toList, entry.2.recoveryReference ≠ mark.recoveryReference := by
      intro entry member
      obtain ⟨_, recorded, markerIs⟩ := markers_found
        (ExtTreeMap.mem_toList_iff_getElem?_eq_some.mp member)
      rw [markerIs]
      exact admissible_unrecorded free valid legal recorded
    unfold reconcileCommitted
    rw [lookup_fold_apart _ _ _ _ _ apart, listed]
    rfl

end HeptaBao.Durable
