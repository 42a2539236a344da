import HeptaBao.Durable.DiskSteps
import HeptaBao.Durable.FrameScan
import HeptaBao.Durable.Replayed

namespace HeptaBao.Durable

open Wire Std Exec List

structure Files where
  snapshot : Snapshot
  events : List JournalEvent
  ledger : Ledger

-- The disk holds that content, perhaps with a torn record behind it.
structure OnDisk (env : Env) (files : Files) (body tail : Bytes) (disk : Disk) : Prop where
  snapshot : ∃ nonce, sealedSnapshot env nonce files.snapshot = .ok disk.snapshot
  snapshotFits : disk.snapshot.length ≤ maxFileBytes
  ledger : ∃ nonce, sealedLedger env nonce files.ledger.size files.ledger = .ok disk.ledger
  ledgerFits : disk.ledger.length ≤ maxFileBytes
  journal : disk.journal = journalMagic ++ (body ++ tail)
  frames : Frames env 1 files.events body
  torn : TornTail env tail
  journalFits : disk.journal.length ≤ maxFileBytes

-- The points of an interrupted mutation that recovery tells apart, with their states.
inductive Stage (env : Env) (inputs : List Bytes) : Committed → Files → Prop
  | quiet (state : Committed) (events : List JournalEvent) (settled : Settled env inputs state events) :
      Stage env inputs state ⟨state.snapshot, events, state.ledger⟩
  | intended (state : Committed) (events : List JournalEvent) (mark : CommitMarker)
      (settled : Settled env inputs state events) (legal : Admissible env inputs state events.length mark) :
      Stage env inputs state ⟨state.snapshot, events ++ [.intent mark], state.ledger⟩
  | published (state : Committed) (events : List JournalEvent) (mark : CommitMarker) (entries : Entries)
      (settled : Settled env inputs state events) (legal : Admissible env inputs state events.length mark)
      (entriesOk : EntriesOk entries mark.generation) :
      Stage env inputs (state.commit mark entries)
        ⟨(state.commit mark entries).snapshot, events ++ [.intent mark], state.ledger⟩
  | logged (state : Committed) (events : List JournalEvent) (mark : CommitMarker) (entries : Entries)
      (settled : Settled env inputs state events) (legal : Admissible env inputs state events.length mark)
      (entriesOk : EntriesOk entries mark.generation) :
      Stage env inputs (state.commit mark entries)
        ⟨(state.commit mark entries).snapshot, events ++ [.intent mark, .commit mark], state.ledger⟩

-- An open intent still has room for the record that will close it.
def Room (env : Env) (files : Files) (body : Bytes) : Prop :=
  ∀ mark, files.events.getLast? = some (.intent mark) → ∃ nonce seq record, sealedJournalRecord env nonce seq (.intent mark) = .ok record ∧
      journalMagic.length + body.length + record.length ≤ maxFileBytes

def LedgerFits (env : Env) (state : Committed) : Prop :=
  ∃ nonce bytes, sealedLedger env nonce state.snapshot.generation state.ledger = .ok bytes ∧ bytes.length ≤ maxFileBytes

-- A disk that recovery will take to `state`.
structure Image (env : Env) (inputs : List Bytes) (cap : Nat) (state : Committed) (files : Files) (disk : Disk) : Prop where
  stage : Stage env inputs state files
  stored : ∃ body tail, OnDisk env files body tail disk ∧ Room env files body
  ledgerFits : LedgerFits env state
  within : state.snapshot.generation ≤ cap

structure Live (env : Env) (inputs : List Bytes) (cap : Nat) (state : Committed) (events : List JournalEvent)
    (svc : Service) (disk : Disk) : Prop where
  snapshot : svc.snapshot = state.snapshot
  ledger : svc.ledger = state.ledger
  sequence : svc.journalSequence = events.length
  bytes : svc.journalBytes = disk.journal.length
  limit : svc.journalLimit = maxFileBytes
  retained : svc.maxRetainedRequests = cap
  settled : Settled env inputs state events
  stored : ∃ body, OnDisk env ⟨state.snapshot, events, state.ledger⟩ body [] disk
  within : state.snapshot.generation ≤ cap

variable {env : Env} {inputs : List Bytes} {state : Committed} {events : List JournalEvent}

theorem settled_no_intent (settled : Settled env inputs state events) (mark : CommitMarker) :
    events.getLast? ≠ some (.intent mark) := by
  cases settled <;> simp

theorem settled_room {env : Env} {inputs : List Bytes} {state : Committed} {events : List JournalEvent}
    (settled : Settled env inputs state events) (snap : Snapshot) (ledger : Ledger) (body : Bytes) :
      Room env ⟨snap, events, ledger⟩ body :=
  fun mark last => absurd last (settled_no_intent settled mark)

variable {disk : Disk}

theorem on_disk_ledger_fits {body tail : Bytes} {snap : Snapshot} (valid : CommittedOk env inputs state)
    (onDisk : OnDisk env ⟨snap, events, state.ledger⟩ body tail disk) : LedgerFits env state := by
  obtain ⟨nonce, written⟩ := onDisk.ledger
  have size : state.ledger.size = state.snapshot.generation := valid.ledger.size
  exact ⟨nonce, disk.ledger, by rw [← size]; exact written, onDisk.ledgerFits⟩

theorem live_image {env : Env} {inputs : List Bytes} (free : CollisionFree env inputs) {cap : Nat} {state : Committed}
    {events : List JournalEvent} {svc : Service} {disk : Disk} (live : Live env inputs cap state events svc disk) :
    Image env inputs cap state ⟨state.snapshot, events, state.ledger⟩ disk := by
  obtain ⟨body, onDisk⟩ := live.stored
  have valid := settled_ok free live.settled
  exact ⟨.quiet state events live.settled, ⟨body, [], onDisk, settled_room live.settled _ _ _⟩, on_disk_ledger_fits valid onDisk, live.within⟩

theorem on_disk_snapshot (env : Env) (files : Files) (body tail : Bytes) (disk : Disk) (snap : Snapshot) (nonce : Nat)
    (bytes : Bytes) (onDisk : OnDisk env files body tail disk) (written : sealedSnapshot env nonce snap = .ok bytes)
    (fits : bytes.length ≤ maxFileBytes) :
    OnDisk env { files with snapshot := snap } body tail (disk.write .snapshot bytes) :=
  ⟨⟨nonce, written⟩, fits, onDisk.ledger, onDisk.ledgerFits, onDisk.journal, onDisk.frames, onDisk.torn, onDisk.journalFits⟩

theorem on_disk_ledger (env : Env) (files : Files) (body tail : Bytes) (disk : Disk) (ledger : Ledger) (nonce : Nat)
    (bytes : Bytes) (onDisk : OnDisk env files body tail disk)
    (written : sealedLedger env nonce ledger.size ledger = .ok bytes)
    (fits : bytes.length ≤ maxFileBytes) :
    OnDisk env { files with ledger := ledger } body tail (disk.write .ledger bytes) :=
  ⟨onDisk.snapshot, onDisk.snapshotFits, ⟨nonce, written⟩, fits, onDisk.journal, onDisk.frames, onDisk.torn, onDisk.journalFits⟩

theorem on_disk_append {files : Files} {body : Bytes} {event : JournalEvent} {nonce : Nat} {record : Bytes}
    (onDisk : OnDisk env files body [] disk)
    (written : sealedJournalRecord env nonce (files.events.length + 1) event = .ok record)
    (fits : disk.journal.length + record.length ≤ maxFileBytes) :
    OnDisk env { files with events := files.events ++ [event] } (body ++ record) []
      (disk.write .journal (disk.journal ++ record)) := by
  refine ⟨onDisk.snapshot, onDisk.snapshotFits, onDisk.ledger, onDisk.ledgerFits, ?_, ?_, .inl rfl, ?_⟩
  · simp [Disk.write, onDisk.journal]
  · rw [Nat.add_comm] at written
    exact frames_snoc 1 body onDisk.frames written
  · simpa [Disk.write] using fits

theorem on_disk_torn {files : Files} {body : Bytes} {event : JournalEvent} {nonce : Nat} (landed : Nat)
    {record : Bytes} (onDisk : OnDisk env files body [] disk) (valid : EventOk event)
    (small : files.events.length + 1 < 2 ^ 64)
    (written : sealedJournalRecord env nonce (files.events.length + 1) event = .ok record)
    (fits : disk.journal.length + record.length ≤ maxFileBytes) :
    OnDisk env { files with events := files.events ++ [event] } (body ++ record) []
        (disk.write .journal (disk.journal ++ record.take landed)) ∨
      OnDisk env files body (record.take landed) (disk.write .journal (disk.journal ++ record.take landed)) := by
  by_cases whole : record.length ≤ landed
  · rw [take_of_length_le whole]
    exact .inl (on_disk_append onDisk written fits)
  · refine .inr ⟨onDisk.snapshot, onDisk.snapshotFits, onDisk.ledger, onDisk.ledgerFits, ?_, onDisk.frames, ?_, ?_⟩
    · simp [Disk.write, onDisk.journal]
    · exact .inr ⟨nonce, files.events.length + 1, event, record, landed, valid, small, written, by omega, by omega, rfl⟩
    · simp only [Disk.write, length_append, length_take]
      omega

end HeptaBao.Durable
