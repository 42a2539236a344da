import HeptaBao.Durable.Image

namespace HeptaBao.Durable

open Wire Std Exec List

structure FilesOk (files : Files) : Prop where
  snapshot : SnapshotOk files.snapshot
  records : ∀ (key : RequestKey) (record : LedgerRecord), files.ledger[key]? = some record → RecordOk key record
  size : files.ledger.size ≤ maxRecords
  events : ∀ event ∈ files.events, EventOk event
  count : files.events.length ≤ maxRecords

theorem stage_files_ok {env : Env} {inputs : List Bytes} (free : CollisionFree env inputs) {state : Committed}
    {files : Files}
    (stage : Stage env inputs state files) : FilesOk files := by
  cases stage with
  | quiet _ events settled =>
    have valid := settled_ok free settled
    obtain ⟨eventsOk, count⟩ := settled_events settled
    exact ⟨committed_snapshot_ok valid, committed_records_ok valid, by rw [valid.ledger.size]; exact valid.bounded, eventsOk, count⟩
  | intended _ events mark settled legal =>
    have valid := settled_ok free settled
    obtain ⟨eventsOk, _⟩ := settled_events settled
    have room := legal.room
    refine ⟨committed_snapshot_ok valid, committed_records_ok valid, by rw [valid.ledger.size]; exact valid.bounded, ?_, by simp; omega⟩
    intro event member
    simp only [mem_append, mem_singleton] at member
    rcases member with older | rfl
    · exact eventsOk event older
    · exact admissible_marker legal
  | published before events mark entries settled legal entriesOk =>
    have valid := settled_ok free settled
    have next := commit_ok free valid legal entriesOk
    obtain ⟨eventsOk, _⟩ := settled_events settled
    have room := legal.room
    refine ⟨committed_snapshot_ok next, committed_records_ok valid, by rw [valid.ledger.size]; exact valid.bounded, ?_, by simp; omega⟩
    intro event member
    simp only [mem_append, mem_singleton] at member
    rcases member with older | rfl
    · exact eventsOk event older
    · exact admissible_marker legal
  | logged before events mark entries settled legal entriesOk =>
    have valid := settled_ok free settled
    have after := Settled.commit before events mark entries settled legal entriesOk
    have next := settled_ok free after
    obtain ⟨eventsOk, count⟩ := settled_events after
    exact ⟨committed_snapshot_ok next, committed_records_ok valid, by rw [valid.ledger.size]; exact valid.bounded, eventsOk, count⟩

theorem bounded_fits {bytes res : Bytes} (accepted : bounded bytes = .ok res) : bytes.length ≤ maxFileBytes ∧
    bytes = res := by
  unfold bounded at accepted
  split at accepted
  · cases accepted
  · cases accepted
    exact ⟨by omega, rfl⟩

theorem bounded_ok (bytes : Bytes) (fits : bytes.length ≤ maxFileBytes) : bounded bytes = .ok bytes := if_neg (by omega)

def Loaded.of (files : Files) (body tail : Bytes) (cap : Nat) : Loaded :=
  ⟨⟨files.snapshot, files.ledger, ∅, files.events.length, journalMagic.length + body.length, maxFileBytes, cap, false⟩,
    files.events, files.ledger.size, tail ≠ []⟩

theorem load_on_disk {env : Env} (laws : BarrierLaws env) {cap : Nat} {files : Files} {body tail : Bytes} {disk : Disk}
    (validCap : validateCapacity cap = .ok ()) (valid : FilesOk files) (onDisk : OnDisk env files body tail disk) :
    load env cap disk = .ok (.of files body tail cap) := by
  obtain ⟨snapshotNonce, snapshotWritten⟩ := onDisk.snapshot
  obtain ⟨ledgerNonce, ledgerWritten⟩ := onDisk.ledger
  have small := max_records_small
  have size := valid.size
  have journalLength : (journalMagic ++ (body ++ tail)).length ≤ maxFileBytes := by
    rw [← onDisk.journal]
    exact onDisk.journalFits
  have bodyFits : body.length ≤ maxFileBytes := by
    simp only [length_append] at journalLength
    omega
  have snapshotRead := decode_sealed_snapshot laws snapshotWritten
    valid.snapshot onDisk.snapshotFits
  have ledgerRead := decode_sealed_ledger laws ledgerWritten
    (by omega) valid.records valid.size onDisk.ledgerFits
  have journalRead := decode_journal laws files.events body tail onDisk.frames valid.events onDisk.torn bodyFits valid.count
  simp only [load, validCap, bounded_ok _ onDisk.snapshotFits, bounded_ok _ onDisk.ledgerFits, onDisk.journal,
    bounded_ok _ journalLength, bind, Except.bind, snapshotRead, ledgerRead, journalRead, pure, Except.pure, Loaded.of]
  simp [show journalMagic.length = 4 from rfl]

end HeptaBao.Durable
