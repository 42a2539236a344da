import HeptaBao.Durable.Prepare
import HeptaBao.Durable.Reopen

namespace HeptaBao.Durable

open Wire Std Exec Action List

structure Kept (before after : Service) : Prop where
  limit : after.journalLimit = before.journalLimit
  retained : after.maxRetainedRequests = before.maxRetainedRequests
  unresolved : after.unresolved = before.unresolved
  reconciliation : after.reconciliation = before.reconciliation

-- A call under way: the journal counters of `held` agree with `files`.
structure Progress (env : Env) (start : Machine) (held : Service) (files : Files) (length : Nat) (reached : Machine) : Prop where
  stored : ∃ body, OnDisk env files body [] reached.disk
  journal : reached.disk.journal.length = length
  service : reached.service = { held with
    journalSequence := files.events.length
    journalBytes := length }
  kept : Kept start.service held
  faultless : start.plan = none → reached.plan = none

structure Stopped (start : Machine) (interrupted : Disk → Prop) (res : Except ServiceError Unit) (reached : Machine) : Prop where
  failed : ∃ flaw, res = .error flaw
  planned : start.plan ≠ none
  kept : Kept start.service reached.service
  interrupted : interrupted reached.disk

def Continues (start : Machine) (progress : Machine → Prop) (interrupted : Disk → Prop) (res : Except ServiceError Unit)
    (reached : Machine) : Prop :=
  (res = .ok () ∧ progress reached) ∨ Stopped start interrupted res reached

section

variable (env : Env) (start m : Machine) (held : Service) (files : Files) (length : Nat) (interrupted : Disk → Prop)
  (progress : Progress env start held files length m)

include progress

theorem progress_body : ∃ body, OnDisk env files body [] m.disk ∧ journalMagic.length + body.length = length := by
  obtain ⟨body, onDisk⟩ := progress.stored
  refine ⟨body, onDisk, ?_⟩
  rw [← progress.journal, onDisk.journal]
  simp

variable {env start held files length} in
theorem progress_kept : Kept start.service m.service := by
  rw [progress.service]
  exact ⟨progress.kept.limit, progress.kept.retained, progress.kept.unresolved, progress.kept.reconciliation⟩

theorem append_continues (nonce : Nat) (event : JournalEvent) (record : Bytes)
    (limit : start.service.journalLimit = maxFileBytes)
    (valid : EventOk event) (written : sealedJournalRecord env nonce (files.events.length + 1) event = .ok record)
    (count : files.events.length + 1 ≤ maxRecords) (fits : length + record.length ≤ maxFileBytes)
    (torn : ∀ body left disk, journalMagic.length + body.length = length → OnDisk env files body left disk →
      interrupted disk)
    (whole : ∀ body disk, journalMagic.length + body.length = length + record.length →
      OnDisk env { files with events := files.events ++ [event] } body [] disk → interrupted disk) :
    Ends (appendFrame record) m (Continues start
      (Progress env start held { files with events := files.events ++ [event] } (length + record.length)) interrupted) := by
  have small := max_records_small
  have journalLength := progress.journal
  obtain ⟨body, onDisk, bodyLength⟩ := progress_body env start m held files length progress
  have longer : journalMagic.length + (body ++ record).length = length + record.length := by
    rw [length_append]
    omega
  have heldLimit : m.service.journalLimit = maxFileBytes := by
    rw [progress.service]
    exact progress.kept.limit.trans limit
  refine ends_weaken (append_frame_ends m record (by rw [progress.service]; exact count) heldLimit
    (by rw [progress.service]; exact fits)) ?_
  intro res reached ended
  obtain ⟨steady, outcome⟩ := ended
  rcases outcome with ⟨rfl, disk, svc⟩ | ⟨flaw, landed, rfl, svc, disk⟩
  · left
    have appended := on_disk_append onDisk written (by omega)
    rw [← disk] at appended
    refine ⟨rfl, ⟨_, appended⟩, ?_, ?_, progress.kept, fun planned => (steady.faultless (progress.faultless planned)).2⟩
    · rw [disk]
      simp [Disk.write, journalLength]
    · rw [svc, progress.service]
      simp
  · right
    refine ⟨⟨flaw, rfl⟩, (fun planned => by cases (steady.faultless (progress.faultless planned)).1), by rw [svc]; exact progress_kept m progress, ?_⟩
    rw [disk]
    rcases on_disk_torn landed onDisk valid (by omega) written (by omega) with all | some
    · exact whole _ _ longer all
    · exact torn _ _ _ bodyLength some

theorem replace_continues (files' : Files) (file : File) (bytes : Bytes) (fits : bytes.length ≤ maxFileBytes)
    (sameEvents : files'.events = files.events)
    (sameJournal : ∀ disk : Disk, (disk.write file bytes).journal = disk.journal)
    (replaced : ∀ body disk, OnDisk env files body [] disk → OnDisk env files' body [] (disk.write file bytes))
    (old : ∀ body disk, journalMagic.length + body.length = length → OnDisk env files body [] disk → interrupted disk)
    (new : ∀ body disk, journalMagic.length + body.length = length → OnDisk env files' body [] disk →
      interrupted disk) :
    Ends (atomicWrite file bytes) m (Continues start (Progress env start held files' length) interrupted) := by
  obtain ⟨body, onDisk, bodyLength⟩ := progress_body env start m held files length progress
  have kept := progress_kept m progress
  refine ends_weaken (atomic_write_ends m file fits) ?_
  intro res reached ended
  obtain ⟨svc, steady, outcome⟩ := ended
  have stops : ∀ flaw, res = .error flaw → start.plan ≠ none := by
    intro flaw same planned
    rw [(steady.faultless (progress.faultless planned)).1] at same
    cases same
  rcases outcome with ⟨rfl, disk⟩ | ⟨flaw, rfl, disk | disk⟩
  · left
    exact ⟨rfl, ⟨body, by rw [disk]; exact replaced body m.disk onDisk⟩, by rw [disk, sameJournal]; exact progress.journal,
      by rw [svc, sameEvents]; exact progress.service, progress.kept,
      fun planned => (steady.faultless (progress.faultless planned)).2⟩
  · right
    exact ⟨⟨flaw, rfl⟩, stops flaw rfl, by rw [svc]; exact kept, by rw [disk]; exact old body m.disk bodyLength onDisk⟩
  · right
    exact ⟨⟨flaw, rfl⟩, stops flaw rfl, by rw [svc]; exact kept, by rw [disk]; exact new body _ bodyLength (replaced body m.disk onDisk)⟩

end

theorem continues_bind {start : Machine} {first : Method Unit} (next : Unit → Method Unit) (m : Machine)
    {middle : Machine → Prop} (final : Machine → Prop)
    {interrupted : Disk → Prop} (begins : Ends first m (Continues start middle interrupted))
    (goes : ∀ reached, middle reached → Ends (next ()) reached (Continues start final interrupted)) :
    Ends (first >>= next) m (Continues start final interrupted) := by
  refine ends_bind _ begins (fun flaw reached ended => ?_) (fun value reached ended => ?_)
  · rcases ended with ⟨wrong, _⟩ | stopped
    · cases wrong
    · exact .inr ⟨⟨flaw, rfl⟩, stopped.planned, stopped.kept, stopped.interrupted⟩
  · rcases ended with ⟨_, progress⟩ | stopped
    · exact goes reached progress
    · obtain ⟨_, wrong⟩ := stopped.failed
      cases wrong

-- Where an interrupted publication can leave snapshot and journal.
def Interrupted (env : Env) (inputs : List Bytes) (cap : Nat) (state next : Committed) (events : List JournalEvent)
    (mark : CommitMarker) (disk : Disk) : Prop :=
  ∃ after files, Image env inputs cap after files disk ∧ ((after = state ∧ (files.events = events ∨ files.events = events ++ [.intent mark])) ∨
      (after = next ∧ (files.events = events ++ [.intent mark] ∨ files.events = events ++ [.intent mark, .commit mark])))

theorem prepared_commit_length {env : Env} (laws : BarrierLaws env) {state : Committed} {count length : Nat}
    {req : Request}
    {admission : Admission} (prepared : Prepared env state count length req admission) : admission.commit.length =
      admission.intent.length := by
  obtain ⟨_, intentWritten⟩ := prepared.intent
  obtain ⟨commitNonce, commitWritten⟩ := prepared.commit
  obtain ⟨plaintext, encoded, _⟩ := bind_ok intentWritten
  obtain ⟨⟨_, commitEncoded, commitLength⟩, _⟩ := terminal_event_length encoded
  obtain ⟨_, written, sameLength⟩ := reseal_record laws commitNonce (count + 2)
    encoded commitEncoded commitLength intentWritten
  rw [commitWritten] at written
  cases written
  exact sameLength

structure Publication (env : Env) (inputs : List Bytes) (cap : Nat) (state : Committed) (events : List JournalEvent)
    (req : Request) (admission : Admission) (m : Machine) : Prop where
  live : Live env inputs cap state events m.service m.disk
  prepared : Prepared env state events.length m.disk.journal.length req admission
  admissible : Admissible env inputs state events.length admission.marker
  entriesOk : EntriesOk (req.apply state.snapshot.entries) admission.marker.generation
  within : admission.marker.generation ≤ cap

section

variable (env : Env) (inputs : List Bytes) (laws : BarrierLaws env) (free : CollisionFree env inputs) (cap : Nat)
  (state : Committed) (events : List JournalEvent) (req : Request) (admission : Admission) (m : Machine)
  (publication : Publication env inputs cap state events req admission m)

include publication

variable {env inputs cap state events req admission} in
theorem next_state_eq : nextState env state events.length req = state.commit admission.marker
    (req.apply state.snapshot.entries) := by
  rw [nextState, publication.prepared.marker]

variable {env inputs cap state events req admission} in
theorem next_settled : Settled env inputs (nextState env state events.length req)
    (events ++ [.intent admission.marker, .commit admission.marker]) := by
  rw [next_state_eq m publication]
  exact .commit state events admission.marker _ publication.live.settled publication.admissible publication.entriesOk

variable {env inputs cap state events req admission} in
theorem next_generation : (nextState env state events.length req).snapshot.generation =
    admission.marker.generation := by
  rw [next_state_eq m publication]
  rfl

variable {env inputs cap state events req admission} in
theorem next_ledger_fits : LedgerFits env (nextState env state events.length req) := by
  obtain ⟨nonce, written⟩ := publication.prepared.ledger
  refine ⟨nonce, admission.ledgerBytes, ?_, publication.prepared.ledgerFits⟩
  rw [next_generation m publication, ← publication.prepared.candidateLedger]
  exact written

theorem interrupted_logged (body left : Bytes) (disk : Disk) (ledger : Ledger)
    (known : ledger = state.ledger ∨ ledger = (nextState env state events.length req).ledger)
    (onDisk : OnDisk env ⟨(nextState env state events.length req).snapshot,
      events ++ [.intent admission.marker, .commit admission.marker], ledger⟩ body left disk) :
    Interrupted env inputs cap state (nextState env state events.length req) events admission.marker disk := by
  have nextEq := next_state_eq m publication
  have settled := next_settled m publication
  have fits := next_ledger_fits m publication
  have within : (nextState env state events.length req).snapshot.generation ≤ cap := by
    rw [next_generation m publication]
    exact publication.within
  have room := settled_room settled
  rcases known with rfl | rfl
  · have stage := Stage.logged state events admission.marker _ publication.live.settled publication.admissible publication.entriesOk
    rw [← nextEq] at stage
    exact ⟨_, _, ⟨stage, ⟨_, _, onDisk, room _ _ _⟩, fits, within⟩, .inr ⟨rfl, .inr rfl⟩⟩
  · exact ⟨_, _, ⟨.quiet _ _ settled, ⟨_, _, onDisk, room _ _ _⟩, fits, within⟩, .inr ⟨rfl, .inr rfl⟩⟩

section

include free

theorem interrupted_quiet (body left : Bytes) (disk : Disk)
    (onDisk : OnDisk env ⟨state.snapshot, events, state.ledger⟩ body left disk) :
    Interrupted env inputs cap state (nextState env state events.length req) events admission.marker disk := by
  have settled := publication.live.settled
  have imageNow := live_image free publication.live
  exact ⟨state, _, ⟨imageNow.stage, ⟨_, _, onDisk, settled_room settled _ _ _⟩, imageNow.ledgerFits, imageNow.within⟩, .inl ⟨rfl, .inl rfl⟩⟩

end

include laws

variable {env inputs cap state events req admission} in
theorem intent_room (snap : Snapshot) (body : Bytes)
    (length : journalMagic.length + body.length = m.disk.journal.length + admission.intent.length) :
    Room env ⟨snap, events ++ [.intent admission.marker], state.ledger⟩ body := by
  have journalFits := publication.prepared.journalFits
  have sameLength := prepared_commit_length laws publication.prepared
  obtain ⟨nonce, written⟩ := publication.prepared.intent
  intro mark last
  simp only [getLast?_append, getLast?_singleton, Option.some_or, Option.some.injEq, JournalEvent.intent.injEq] at last
  subst last
  exact ⟨nonce, _, admission.intent, written, by omega⟩

theorem interrupted_published (body left : Bytes) (disk : Disk)
    (length : journalMagic.length + body.length = m.disk.journal.length + admission.intent.length)
    (onDisk : OnDisk env ⟨(nextState env state events.length req).snapshot, events ++ [.intent admission.marker],
      state.ledger⟩ body left disk) :
    Interrupted env inputs cap state (nextState env state events.length req) events admission.marker disk := by
  have nextEq := next_state_eq m publication
  have room := intent_room laws m publication
    (nextState env state events.length req).snapshot body length
  have stage := Stage.published state events admission.marker _ publication.live.settled publication.admissible publication.entriesOk
  rw [← nextEq] at stage
  exact ⟨_, _, ⟨stage, ⟨_, _, onDisk, room⟩, next_ledger_fits m publication, by rw [next_generation m publication]; exact publication.within⟩,
    .inr ⟨rfl, .inl rfl⟩⟩

include free

theorem interrupted_intended (body left : Bytes) (disk : Disk)
    (length : journalMagic.length + body.length = m.disk.journal.length + admission.intent.length)
    (onDisk : OnDisk env ⟨state.snapshot, events ++ [.intent admission.marker], state.ledger⟩ body left disk) :
    Interrupted env inputs cap state (nextState env state events.length req) events admission.marker disk := by
  have imageNow := live_image free publication.live
  have room := intent_room laws m publication state.snapshot body length
  exact ⟨state, _, ⟨.intended state events admission.marker publication.live.settled publication.admissible,
    ⟨_, _, onDisk, room⟩, imageNow.ledgerFits, imageNow.within⟩, .inl ⟨rfl, .inr rfl⟩⟩

theorem publish_ends : Ends (publish admission) m
    (Continues m (fun reached => Live env inputs cap (nextState env state events.length req)
        (events ++ [.intent admission.marker, .commit admission.marker]) reached.service reached.disk ∧
          Kept m.service reached.service)
    (Interrupted env inputs cap state (nextState env state events.length req) events admission.marker)) := by
  have prepared := publication.prepared
  have records := prepared.records
  have journalFits := prepared.journalFits
  have live := publication.live
  have markerOk := admissible_marker publication.admissible
  have settled := next_settled m publication
  have validNext := settled_ok free settled
  have gen := next_generation m publication
  obtain ⟨snapshotNonce, snapshotWritten⟩ := prepared.snapshot
  obtain ⟨ledgerNonce, ledgerWritten⟩ := prepared.ledger
  obtain ⟨intentNonce, intentWritten⟩ := prepared.intent
  obtain ⟨commitNonce, commitWritten⟩ := prepared.commit
  rw [prepared.candidate] at snapshotWritten
  rw [prepared.candidateLedger, ← gen, ← validNext.ledger.size] at ledgerWritten
  have quiet := interrupted_quiet env inputs free cap state events req admission m publication
  have intended := interrupted_intended env inputs laws free cap state events req admission m publication
  have published := interrupted_published env inputs laws cap state events req admission m publication
  have logged := interrupted_logged env inputs cap state events req admission m publication
  have begins : Progress env m m.service ⟨state.snapshot, events, state.ledger⟩ m.disk.journal.length m :=
    ⟨live.stored, rfl, by rw [← live.sequence, ← live.bytes], ⟨rfl, rfl, rfl, rfl⟩, id⟩
  unfold publish
  refine continues_bind _ m _ (append_continues env m m _ _ _ _ begins intentNonce (.intent admission.marker) _ live.limit
    markerOk intentWritten (by simp only; omega) (by omega) (fun body left disk _ onDisk => quiet body left disk onDisk)
    (fun body disk length onDisk => intended body [] disk length onDisk)) ?_
  intro first firstProgress
  refine continues_bind _ first _ (replace_continues env m first _ _ _ _ firstProgress
    ⟨(nextState env state events.length req).snapshot, events ++ [.intent admission.marker], state.ledger⟩ .snapshot _
    prepared.snapshotFits rfl (fun _ => rfl)
    (fun body disk onDisk => on_disk_snapshot env _ body [] disk _ snapshotNonce _ onDisk snapshotWritten prepared.snapshotFits)
    (fun body disk length onDisk => intended body [] disk length onDisk)
    (fun body disk length onDisk => published body [] disk length onDisk)) ?_
  intro second secondProgress
  apply ends_modify
  have moved : Progress env m { m.service with snapshot := admission.candidate } ⟨(nextState env state events.length req).snapshot,
      events ++ [.intent admission.marker], state.ledger⟩ (m.disk.journal.length + admission.intent.length)
        { second with service := { second.service with snapshot := admission.candidate } } :=
    ⟨secondProgress.stored, secondProgress.journal, by simp only [secondProgress.service], ⟨rfl, rfl, rfl, rfl⟩, secondProgress.faultless⟩
  refine continues_bind _ _ _ (append_continues env m _ _ _ _ _ moved commitNonce (.commit admission.marker) _ live.limit
    markerOk (by simpa using commitWritten) (by simp only [length_append, length_singleton]; omega) (by omega)
    (fun body left disk length onDisk => published body left disk length onDisk)
    (fun body disk _ onDisk => logged body [] disk state.ledger (.inl rfl) (by simpa using onDisk))) ?_
  intro third thirdProgress
  refine continues_bind _ third _ (replace_continues env m third _ _ _ _ thirdProgress
    ⟨(nextState env state events.length req).snapshot, events ++ [.intent admission.marker, .commit admission.marker],
      (nextState env state events.length req).ledger⟩ .ledger _
    prepared.ledgerFits (by simp) (fun _ => rfl)
    (fun body disk onDisk => by
      have replaced := on_disk_ledger env _ body [] disk _ ledgerNonce _ onDisk ledgerWritten prepared.ledgerFits
      simpa using replaced)
    (fun body disk _ onDisk => logged body [] disk state.ledger (.inl rfl) (by simpa using onDisk))
    (fun body disk _ onDisk => logged body [] disk _ (.inr rfl) onDisk)) ?_
  intro fourth fourthProgress
  have svc := fourthProgress.service
  refine .inl ⟨rfl, ⟨?_, prepared.candidateLedger, ?_, ?_, ?_, ?_, settled, fourthProgress.stored, by rw [gen]; exact publication.within⟩, ?_⟩
  · change fourth.service.snapshot = _
    rw [svc, ← prepared.candidate]
  · change fourth.service.journalSequence = _
    rw [svc]
  · change fourth.service.journalBytes = fourth.disk.journal.length
    rw [svc, fourthProgress.journal]
  · change fourth.service.journalLimit = _
    rw [svc]
    exact live.limit
  · change fourth.service.maxRetainedRequests = _
    rw [svc]
    exact live.retained
  · have kept := progress_kept fourth fourthProgress
    exact ⟨kept.limit, kept.retained, kept.unresolved, kept.reconciliation⟩

end

end HeptaBao.Durable
