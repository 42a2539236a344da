import HeptaBao.Durable.Resolution

namespace HeptaBao.Durable

open Wire Std Exec Action List

theorem torn_tail_take (env : Env) (tail : Bytes) (landed : Nat) (torn : TornTail env tail) :
    TornTail env (tail.take landed) := by
  rcases torn with rfl | ⟨nonce, seq, event, record, count, valid, bounded, written, fits, short, rfl⟩
  · exact .inl (by simp)
  · exact .inr ⟨nonce, seq, event, record, min landed count, valid, bounded, written, fits, by omega, by rw [take_take]⟩

variable {env : Env} {files : Files}

theorem on_disk_cut {body tail : Bytes} (landed : Nat) {disk : Disk} (onDisk : OnDisk env files body tail disk) :
    OnDisk env files body (tail.take landed) (disk.write .journal (journalMagic ++ (body ++ tail.take landed))) := by
  refine ⟨onDisk.snapshot, onDisk.snapshotFits, onDisk.ledger, onDisk.ledgerFits, rfl, onDisk.frames, torn_tail_take env tail landed onDisk.torn, ?_⟩
  have fits := onDisk.journalFits
  rw [onDisk.journal] at fits
  simp only [Disk.write, length_append, length_take] at fits ⊢
  omega

theorem repair_tail_ends {body tail : Bytes} {m : Machine} (onDisk : OnDisk env files body tail m.disk)
    (verified : m.service.journalBytes = journalMagic.length + body.length) :
    Ends (repairTail (tail ≠ [])) m (fun res reached => reached.service = m.service ∧ Steady m reached (res = .ok ()) ∧
        ((res = .ok () ∧ OnDisk env files body [] reached.disk) ∨ ∃ flaw left, res = .error flaw ∧
          OnDisk env files body left reached.disk)) := by
  unfold repairTail
  apply ends_read
  by_cases clean : tail = []
  · subst clean
    exact ⟨rfl, ⟨rfl, fun planned => ⟨rfl, planned⟩⟩, .inl ⟨rfl, onDisk⟩⟩
  · rw [if_pos (by simpa using clean)]
    have journal : m.disk.journal = (journalMagic ++ body) ++ tail := by rw [onDisk.journal, append_assoc]
    have length : m.service.journalBytes = (journalMagic ++ body).length := by rw [verified, length_append]
    refine ends_weaken (journal_step_ends m _ _) ?_
    intro res reached ended
    obtain ⟨sameService, steady, outcome⟩ := ended
    refine ⟨sameService, steady, ?_⟩
    rcases outcome with ⟨rfl, written⟩ | ⟨flaw, landed, rfl, written⟩
    · left
      have cut : resize m.service.journalBytes m.disk.journal = journalMagic ++ (body ++ tail.take 0) := by
        rw [resize, journal, length, take_left, length_append]
        simp
      rw [cut] at written
      have shortened := on_disk_cut 0 onDisk
      rw [← written, take_zero] at shortened
      exact ⟨rfl, shortened⟩
    · right
      have cut : m.disk.journal.take (m.service.journalBytes + landed) = journalMagic ++ (body ++ tail.take landed) := by
        rw [journal, length, take_length_add_append, append_assoc]
      rw [cut] at written
      have shortened := on_disk_cut landed onDisk
      rw [← written] at shortened
      exact ⟨flaw, _, rfl, shortened⟩

variable {mark : CommitMarker}

theorem closing_record (laws : BarrierLaws env) {body : Bytes} (published : Bool)
    (nonce seq : Nat) (room : Room env files body) (last : files.events.getLast? = some (.intent mark)) :
    ∃ record, sealedJournalRecord env nonce seq (closing published mark) = .ok record ∧
      journalMagic.length + body.length + record.length ≤ maxFileBytes := by
  obtain ⟨_, _, _, written, _⟩ := room mark last
  obtain ⟨plaintext, encoded, _⟩ := bind_ok written
  obtain ⟨⟨_, commitEncoded, commitLength⟩, _, abortEncoded, abortLength⟩ := terminal_event_length encoded
  cases published with
  | true =>
    obtain ⟨record, recordWritten, recordLength⟩ := reseal_record laws nonce seq
      encoded commitEncoded commitLength written
    exact ⟨record, recordWritten, by omega⟩
  | false =>
    obtain ⟨record, recordWritten, _⟩ := reseal_record laws nonce seq
      encoded abortEncoded abortLength written
    exact ⟨record, recordWritten, by omega⟩

theorem closing_ok (published : Bool) (mark : CommitMarker) (valid : validateMarker mark = .ok ())
    (bounded : mark.generation < 2 ^ 64) : EventOk (closing published mark) := by
  cases published <;> exact ⟨valid, bounded⟩

theorem append_event_ends {body record : Bytes} {event : JournalEvent} {m : Machine}
    (onDisk : OnDisk env files body [] m.disk) (valid : EventOk event)
    (seq : m.service.journalSequence = files.events.length)
    (bytes : m.service.journalBytes = m.disk.journal.length) (limit : m.service.journalLimit = maxFileBytes)
    (count : files.events.length + 1 ≤ maxRecords)
    (written : sealedJournalRecord env m.nonce (files.events.length + 1) event = .ok record)
    (fits : m.disk.journal.length + record.length ≤ maxFileBytes) : Ends (appendEvent env event) m (fun res reached =>
      (m.plan = none → res = .ok () ∧ reached.plan = none) ∧ ((res = .ok () ∧ reached.service = { m.service with
              journalSequence := files.events.length + 1
              journalBytes := m.disk.journal.length + record.length } ∧
            reached.disk.journal.length = m.disk.journal.length + record.length ∧
              OnDisk env { files with events := files.events ++ [event] } (body ++ record) [] reached.disk) ∨
          ∃ flaw, res = .error flaw ∧ (OnDisk env { files with events := files.events ++ [event] } (body ++ record) [] reached.disk ∨
              ∃ left, OnDisk env files body left reached.disk))) := by
  have small := max_records_small
  unfold appendEvent
  apply ends_read
  refine ends_lift _ (files.events.length + 1) _ m _ ?_ ?_
  · rw [seq, checked_add_small _ _ (by omega)]
  refine ends_lift _ record _ m _ written ?_
  apply ends_modify
  refine ends_weaken (append_frame_ends _ record (by simp only [seq]; omega) limit (by simp only [bytes]; omega)) ?_
  intro res reached ended
  obtain ⟨steady, outcome⟩ := ended
  refine ⟨steady.faultless, ?_⟩
  rcases outcome with ⟨rfl, disk, svc⟩ | ⟨flaw, landed, rfl, svc, disk⟩
  · left
    refine ⟨rfl, by rw [svc]; simp only [seq, bytes], by rw [disk]; simp [Disk.write], ?_⟩
    rw [disk]
    exact on_disk_append onDisk written fits
  · right
    refine ⟨flaw, rfl, ?_⟩
    rw [disk]
    rcases on_disk_torn landed onDisk valid (by omega) written fits with whole | torn
    · exact .inl whole
    · exact .inr ⟨_, torn⟩

def Closes (before after : List JournalEvent) : Prop :=
  after = before ∨ ∃ published mark, before.getLast? = some (.intent mark) ∧ after = before ++ [closing published mark]

theorem settle_pending_closing (env : Env) {replay : Replay} (published : Bool)
    (pending : replay.pending = some mark) : settlePending env replay published = (do
      appendEvent env (closing published mark)
      return closed published mark replay) := by
  obtain ⟨_, _, _, _, _, _, _⟩ := replay
  cases pending
  cases published <;> rfl

variable (env : Env) (inputs : List Bytes) (laws : BarrierLaws env) (free : CollisionFree env inputs) (cap : Nat)
  (state : Committed) (files : Files)

include laws

theorem settle_pending_ends (image : ∀ events disk body left,
    Stage env inputs state ⟨files.snapshot, events, files.ledger⟩ →
      OnDisk env ⟨files.snapshot, events, files.ledger⟩ body left disk →
        Room env ⟨files.snapshot, events, files.ledger⟩ body →
        Image env inputs cap state ⟨files.snapshot, events, files.ledger⟩ disk)
    (stage : Stage env inputs state files) {replay : Replay} {published : Bool} {events : List JournalEvent}
    {final : Replay}
    (resolves : Resolves env inputs state files replay published events final) {body : Bytes} {m : Machine}
    (onDisk : OnDisk env files body [] m.disk) (room : Room env files body)
    (seq : m.service.journalSequence = files.events.length) (bytes : m.service.journalBytes = m.disk.journal.length)
    (limit : m.service.journalLimit = maxFileBytes) : Ends (settlePending env replay published) m (fun res reached =>
      (m.plan = none → res = .ok final ∧ reached.plan = none) ∧ ((res = .ok final ∧ reached.service = { m.service with
              journalSequence := events.length
              journalBytes := reached.disk.journal.length } ∧
            Closes files.events events ∧ ∃ body', OnDisk env { files with events := events } body' [] reached.disk) ∨
          ∃ flaw events', res = .error flaw ∧ Closes files.events events' ∧
            Image env inputs cap state { files with events := events' } reached.disk)) := by
  rcases resolves.shape with ⟨pending, rfl, rfl⟩ | ⟨mark, pending, last, valid, bounded, count, eventsEq, finalEq, nextStage⟩
  · simp only [settlePending, pending]
    refine ⟨fun planned => ⟨rfl, planned⟩, .inl ⟨rfl, ?_, .inl rfl, body, onDisk⟩⟩
    rw [← seq]
    change m.service = { m.service with journalBytes := m.disk.journal.length }
    rw [← bytes]
  · have journal : m.disk.journal.length = journalMagic.length + body.length := by rw [onDisk.journal]; simp
    obtain ⟨record, written, _⟩ := closing_record laws published m.nonce (files.events.length + 1) room last
    have appended := append_event_ends onDisk
      (closing_ok published mark valid bounded) seq bytes limit count written (by omega)
    have closes : Closes files.events events := Or.inr ⟨published, mark, last, eventsEq⟩
    have nextRoom : Room env ⟨files.snapshot, events, files.ledger⟩ (body ++ record) := settled_room resolves.settled _ _ _
    rw [settle_pending_closing env published pending]
    refine ends_bind _ appended (fun flaw reached stopped => ?_) (fun value reached went => ?_)
    · obtain ⟨faultless, outcome⟩ := stopped
      refine ⟨(fun planned => nomatch (faultless planned).1), .inr ?_⟩
      rcases outcome with ⟨wrong, _⟩ | ⟨_, _, whole | ⟨left, torn⟩⟩
      · cases wrong
      · rw [← eventsEq] at whole
        exact ⟨flaw, events, rfl, closes, image events _ _ _ nextStage whole nextRoom⟩
      · exact ⟨flaw, files.events, rfl, .inl rfl, image files.events _ _ _ stage torn room⟩
    · obtain ⟨faultless, outcome⟩ := went
      refine ⟨fun planned => ⟨by rw [finalEq]; rfl, (faultless planned).2⟩, .inl ?_⟩
      rcases outcome with ⟨_, svc, length, whole⟩ | ⟨_, wrong, _⟩
      · rw [← eventsEq] at whole
        refine ⟨by rw [finalEq]; rfl, ?_, closes, _, whole⟩
        change reached.service = _
        rw [svc, eventsEq]
        simp only [length_append, length_singleton]
        change _ = { m.service with
          journalSequence := files.events.length + 1
          journalBytes := reached.disk.journal.length }
        rw [length]
      · cases wrong

end HeptaBao.Durable
