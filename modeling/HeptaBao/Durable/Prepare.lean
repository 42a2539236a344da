import HeptaBao.Durable.Image
import HeptaBao.Durable.World

namespace HeptaBao.Durable

open Wire Std Exec ExtTreeMap

variable (env : Env)

theorem mutate_entries (req : Request) (entries : Entries) : mutateEntries (req.binding env) req.value entries =
    .ok (req.apply entries) := by
  cases req <;> rfl

theorem binding_key (req : Request) : (req.binding env).key = req.key := by
  cases req <;> rfl

theorem request_key_valid (req : Request) (valid : req.validate = .ok ()) : validateKey req.key = .ok () := by
  cases req with
  | put req => exact (put_validate_parts valid).1
  | delete req => exact (delete_validate_parts valid).1

theorem apply_entries_ok {req : Request} {entries : Entries} {gen : Nat} (valid : req.validate = .ok ())
    (entriesOk : EntriesOk entries gen) : EntriesOk (req.apply entries) (gen + 1) := by
  cases req with
  | put req =>
    obtain ⟨validKey, validResource⟩ := put_validate_parts valid
    refine ⟨?_, ?_⟩
    · intro key value found
      simp only [Request.apply, lookup_insert] at found
      by_cases same : (⟨req.nspace, req.resource⟩ : StorageKey) = key
      · rw [if_pos same] at found
        cases found
        subst same
        exact ⟨(validate_key_parts validKey).2.1, validResource, req.value.nonempty, req.value.bounded⟩
      · rw [if_neg same] at found
        exact entriesOk.valid key value found
    · have grown := size_insert_le (t := entries) (k := ⟨req.nspace, req.resource⟩) (v := req.value.bytes)
      have size := entriesOk.size
      simp only [Request.apply]
      omega
  | delete req =>
    refine ⟨?_, ?_⟩
    · intro key value found
      simp only [Request.apply, getElem?_erase] at found
      split at found
      · cases found
      · exact entriesOk.valid key value found
    · have shrunk := size_erase_le (t := entries) (k := ⟨req.nspace, req.resource⟩)
      have size := entriesOk.size
      simp only [Request.apply]
      omega

variable (state : Committed)

def nextMarkerOf (count : Nat) (req : Request) : CommitMarker :=
  ⟨req.key, (req.binding env).digest env, recoveryReference env ((req.binding env).digest env) (state.snapshot.generation + 1) (count + 1),
    state.snapshot.generation + 1⟩

def nextState (count : Nat) (req : Request) : Committed :=
  state.commit (nextMarkerOf env state count req) (req.apply state.snapshot.entries)

structure Prepared (env : Env) (state : Committed) (count : Nat) (journalLength : Nat) (req : Request) (admission : Admission) :
    Prop where
  marker : admission.marker = nextMarkerOf env state count req
  candidate : admission.candidate = (nextState env state count req).snapshot
  candidateLedger : admission.candidateLedger = (nextState env state count req).ledger
  snapshot : ∃ nonce, sealedSnapshot env nonce admission.candidate = .ok admission.snapshotBytes
  ledger : ∃ nonce, sealedLedger env nonce admission.marker.generation admission.candidateLedger =
    .ok admission.ledgerBytes
  intent : ∃ nonce, sealedJournalRecord env nonce (count + 1) (.intent admission.marker) = .ok admission.intent
  commit : ∃ nonce, sealedJournalRecord env nonce (count + 2) (.commit admission.marker) = .ok admission.commit
  snapshotFits : admission.snapshotBytes.length ≤ maxFileBytes
  ledgerFits : admission.ledgerBytes.length ≤ maxFileBytes
  records : count + 2 ≤ maxRecords
  journalFits : journalLength + admission.intent.length + admission.commit.length ≤ maxFileBytes

theorem reserves_ok (svc : Service) (admission : Admission) (limit : svc.journalLimit = maxFileBytes)
    (accepted : svc.reserves admission = .ok ()) : admission.snapshotBytes.length ≤ maxFileBytes ∧
      admission.ledgerBytes.length ≤ maxFileBytes ∧
      svc.journalSequence + 2 ≤ maxRecords ∧ svc.journalBytes + admission.intent.length + admission.commit.length ≤
        maxFileBytes := by
  unfold Service.reserves at accepted
  split at accepted
  · cases accepted
  · rename_i small
    split at accepted
    · cases accepted
    · rename_i few
      split at accepted
      · cases accepted
      · rename_i withIntent first
        split at accepted
        · cases accepted
        · rename_i total second
          split at accepted
          · cases accepted
          · rename_i fits
            simp only [checkedAdd, Option.ite_none_right_eq_some, Option.some.injEq] at first second
            omega

variable {inputs : List Bytes}

theorem prepare_ok {env : Env} {cap : Nat} {state : Committed} {events : List JournalEvent}
    {svc : Service} {disk : Disk} {nonce : Nat} {req : Request} {admission : Admission}
    (live : Live env inputs cap state events svc disk)
    (prepared : svc.prepare env nonce (req.binding env) req.value = .ok admission) :
    Prepared env state events.length disk.journal.length req admission := by
  obtain ⟨mark, markerEq, prepared⟩ := bind_ok prepared
  obtain ⟨terminal, terminalEq, prepared⟩ := bind_ok prepared
  obtain ⟨entries, entriesEq, prepared⟩ := bind_ok prepared
  obtain ⟨snapshotBytes, snapshotWritten, prepared⟩ := bind_ok prepared
  obtain ⟨ledgerBytes, ledgerWritten, prepared⟩ := bind_ok prepared
  obtain ⟨intent, intentWritten, prepared⟩ := bind_ok prepared
  obtain ⟨commit, commitWritten, prepared⟩ := bind_ok prepared
  obtain ⟨reserved, prepared⟩ := unit_bind_ok prepared
  cases prepared
  rw [mutate_entries] at entriesEq
  cases entriesEq
  have markerIs : mark = nextMarkerOf env state events.length req := by
    unfold Service.nextMarker at markerEq
    rw [live.snapshot, live.sequence] at markerEq
    split at markerEq
    · cases markerEq
    · rename_i gen first
      split at markerEq
      · cases markerEq
      · rename_i seq second
        simp only [checkedAdd, Option.ite_none_right_eq_some, Option.some.injEq] at first second
        cases markerEq
        rw [← first.2, ← second.2, binding_key]
        rfl
  have terminalIs : terminal = events.length + 2 := by
    unfold Service.terminalSequence at terminalEq
    rw [live.sequence] at terminalEq
    split at terminalEq
    · cases terminalEq
    · rename_i seq first
      simp only [checkedAdd, Option.ite_none_right_eq_some, Option.some.injEq] at first
      cases terminalEq
      omega
  obtain ⟨snapshotFits, ledgerFits, records, journalFits⟩ := reserves_ok svc _ live.limit reserved
  rw [live.sequence] at intentWritten records
  rw [terminalIs] at commitWritten
  rw [live.bytes] at journalFits
  refine ⟨markerIs, ?_, ?_, ⟨_, snapshotWritten⟩, ⟨_, ledgerWritten⟩, ⟨_, intentWritten⟩, ⟨_, commitWritten⟩, snapshotFits,
    ledgerFits, records, journalFits⟩
  · rw [nextState, ← markerIs, ← live.snapshot]
    rfl
  · rw [nextState, ← markerIs]
    change svc.ledger.insert (req.binding env).key (recordOf mark) = state.ledger.insert mark.key (recordOf mark)
    rw [live.ledger, binding_key, markerIs]
    rfl

theorem next_admissible {env : Env} (free : CollisionFree env inputs) (cap : Nat) (state : Committed)
    (events : List JournalEvent) (svc : Service) (disk : Disk) (req : Request)
    (live : Live env inputs cap state events svc disk) (valid : req.validate = .ok ())
    (fresh : state.ledger[req.key]? = none) (room : state.snapshot.generation + 1 ≤ maxRecords)
    (hashed : hashedBy env svc req ⊆ inputs) (records : events.length + 2 ≤ maxRecords) :
    Admissible env inputs state events.length (nextMarkerOf env state events.length req) := by
  have small := max_records_small
  have bindingHashed : digestInput bindingDomain (req.binding env).encoded ∈ inputs := hashed (by simp [hashedBy, hashedAt])
  have recoveryHashed : digestInput recoveryDomain (recoveryInput ((req.binding env).digest env)
      (state.snapshot.generation + 1) (events.length + 1)) ∈ inputs := by
    apply hashed
    rw [← live.snapshot, ← live.sequence]
    simp [hashedBy, hashedAt]
  refine ⟨request_key_valid req valid, free.nonzero _ bindingHashed, fresh, rfl, room, ⟨rfl, recoveryHashed, ?_, ?_⟩, records⟩
  · simp only [nextMarkerOf]
    omega
  · omega

end HeptaBao.Durable
