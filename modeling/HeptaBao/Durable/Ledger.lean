import HeptaBao.Durable.RoundTrip

namespace HeptaBao.Durable

open Wire Std List ExtTreeMap

def validateRecords (gen : Nat) : List (RequestKey × LedgerRecord) → ExtTreeSet Nat → ExtTreeSet Str →
    Except ServiceError (ExtTreeSet Nat)
  | [], generations, _ => .ok generations
  | (key, record) :: rest, generations, references => do
    validateKey key
    validateLedgerRecord record
    if gen < record.generation ∨ record.generation ∈ generations ∨ record.recoveryReference ∈ references then .error .corruptState
    else
      validateRecords gen rest (generations.insert record.generation)
        (references.insert record.recoveryReference)

def validateLedgerGeneration (ledger : Ledger) (gen : Nat) : Except ServiceError Unit :=
  if ledger.size ≠ gen then .error .corruptState
  else do
    let generations ← validateRecords gen ledger.toList ∅ ∅
    if generations.toList ≠ range' 1 gen then .error .corruptState else .ok ()

def markerOf (key : RequestKey) (record : LedgerRecord) : CommitMarker :=
  ⟨key, record.bindingDigest, record.recoveryReference, record.generation⟩

def markerFromLedger (key : RequestKey) (record : LedgerRecord) : Except ServiceError CommitMarker := do
  validateLedgerRecord record
  validateMarker (markerOf key record)
  return markerOf key record

def frontierMarker (ledger : Ledger) (gen : Nat) : Except ServiceError CommitMarker :=
  match ledger.toList.find? (fun entry => entry.2.generation = gen) with
  | none => .error .corruptState
  | some entry => markerFromLedger entry.1 entry.2

def validateCommittedState (snap : Snapshot) (ledgerGeneration : Nat) (ledger : Ledger) : Except ServiceError Unit :=
  if snap.generation ≠ ledgerGeneration then .error .corruptState
  else do
    validateLedgerGeneration ledger ledgerGeneration
    if ledgerGeneration = 0 then
      if snap.lastCommit.isSome ∨ ledger.isEmpty = false then .error .corruptState else .ok ()
    else do
      let mark ← frontierMarker ledger ledgerGeneration
      if snap.lastCommit ≠ some mark then .error .corruptState else .ok ()

def ledgerPrefix (ledger : Ledger) (gen : Nat) : Except ServiceError Ledger := do
  validateLedgerGeneration (ledger.filter fun _ record => record.generation ≤ gen) gen
  return ledger.filter fun _ record => record.generation ≤ gen

def checkpointLedgerDomain : Bytes := str "heptabao.durable-service.checkpoint-ledger.v1"

def checkpointMarker (env : Env) (snap : Snapshot) (ledger : Ledger) : Except ServiceError CheckpointMarker := do
  validateCommittedState snap snap.generation ledger
  let encoded ← encodeLedger ledger
  return ⟨snap.generation, ledger.size, snap.lastCommit, digest32 env checkpointLedgerDomain encoded⟩

def validateCheckpoint (env : Env) (point : CheckpointMarker) (retained : Ledger) : Except ServiceError Unit :=
  if point.retainedRequests ≠ point.generation ∨ point.retainedRequests ≠ retained.size then
    .error .corruptState
  else do
    validateLedgerGeneration retained point.generation
    let encoded ← encodeLedger retained
    if point.ledgerDigest ≠ digest32 env checkpointLedgerDomain encoded then .error .corruptState
    else if point.generation = 0 then
      if point.lastCommit.isSome then .error .corruptState else .ok ()
    else do
      let mark ← frontierMarker retained point.generation
      if point.lastCommit ≠ some mark then .error .corruptState else .ok ()

-- The records are well formed and numbered from one without gaps.
structure LedgerOk (ledger : Ledger) (gen : Nat) : Prop where
  size : ledger.size = gen
  records : ∀ (key : RequestKey) (record : LedgerRecord), ledger[key]? = some record → RecordOk key record ∧
    record.generation ≤ gen
  generations : ∀ (key key' : RequestKey) (record record' : LedgerRecord), ledger[key]? = some record →
    ledger[key']? = some record' →
    record.generation = record'.generation → key = key'
  references : ∀ (key key' : RequestKey) (record record' : LedgerRecord), ledger[key]? = some record →
    ledger[key']? = some record' →
    record.recoveryReference = record'.recoveryReference → key = key'

def distinctRecords (entries : List (RequestKey × LedgerRecord)) : Prop :=
  entries.Pairwise fun a b => a.2.generation ≠ b.2.generation ∧ a.2.recoveryReference ≠ b.2.recoveryReference

theorem mem_ledger {ledger : Ledger} {entry : RequestKey × LedgerRecord} (listed : entry ∈ ledger.toList) :
    ledger[entry.1]? = some entry.2 :=
  mem_toList_iff_getElem?_eq_some.mp (show (entry.1, entry.2) ∈ ledger.toList from listed)

theorem ledger_distinct {ledger : Ledger} {gen : Nat} (valid : LedgerOk ledger gen) :
    distinctRecords ledger.toList := by
  have keys := distinct_keys_toList (t := ledger)
  refine List.Pairwise.imp_of_mem ?_ keys
  intro a b inA inB apart
  constructor
  · intro same
    apply apart
    rw [valid.generations _ _ _ _ (mem_ledger inA) (mem_ledger inB) same]
    exact ReflCmp.compare_self
  · intro same
    apply apart
    rw [valid.references _ _ _ _ (mem_ledger inA) (mem_ledger inB) same]
    exact ReflCmp.compare_self

-- Induction on the entries: what was collected never meets what is to come.
theorem validate_records_collects (gen : Nat) (entries : List (RequestKey × LedgerRecord))
    (generations : ExtTreeSet Nat) (references : ExtTreeSet Str) (distinct : distinctRecords entries)
    (valid : ∀ entry ∈ entries, RecordOk entry.1 entry.2 ∧ entry.2.generation ≤ gen)
    (freshGenerations : ∀ entry ∈ entries, entry.2.generation ∉ generations)
    (freshReferences : ∀ entry ∈ entries, entry.2.recoveryReference ∉ references) :
    ∃ collected, validateRecords gen entries generations references = .ok collected ∧
      ∀ n, n ∈ collected ↔ n ∈ generations ∨ ∃ entry ∈ entries, entry.2.generation = n := by
  induction entries generalizing generations references with
  | nil => exact ⟨generations, rfl, by simp⟩
  | cons entry _ ih =>
    obtain ⟨key, record⟩ := entry
    obtain ⟨apart, distinctRest⟩ := pairwise_cons.mp distinct
    obtain ⟨recordOk, bounded⟩ := valid (key, record) mem_cons_self
    have accepted : ¬ (gen < record.generation ∨ record.generation ∈ generations ∨ record.recoveryReference ∈ references) := by
      have first := freshGenerations (key, record) mem_cons_self
      have second := freshReferences (key, record) mem_cons_self
      simp only [not_or, Nat.not_lt]
      exact ⟨bounded, first, second⟩
    obtain ⟨collected, runs, members⟩ := ih (generations.insert record.generation) (references.insert record.recoveryReference)
      distinctRest (fun other member => valid other (mem_cons_of_mem _ member))
      (fun other member => by
        rw [ExtTreeSet.mem_insert, LawfulEqOrd.compare_eq_iff_eq, not_or]
        exact ⟨(apart other member).1, freshGenerations other (mem_cons_of_mem _ member)⟩)
      (fun other member => by
        rw [ExtTreeSet.mem_insert, LawfulEqOrd.compare_eq_iff_eq, not_or]
        exact ⟨(apart other member).2, freshReferences other (mem_cons_of_mem _ member)⟩)
    refine ⟨collected, ?_, ?_⟩
    · simp only [validateRecords, recordOk.validKey, recordOk.validRecord, bind, Except.bind, if_neg accepted, runs]
    · intro n
      rw [members, ExtTreeSet.mem_insert, LawfulEqOrd.compare_eq_iff_eq]
      simp only [exists_mem_cons_iff]
      tauto

theorem ledger_complete {ledger : Ledger} {gen : Nat} (n : Nat) (valid : LedgerOk ledger gen) :
    (∃ entry ∈ ledger.toList, entry.2.generation = n) ↔ 1 ≤ n ∧ n ≤ gen := by
  have distinct : (ledger.toList.map fun entry => entry.2.generation).Nodup :=
    pairwise_map.mpr (List.Pairwise.imp (fun apart => apart.1) (ledger_distinct valid))
  have inside : (ledger.toList.map fun entry => entry.2.generation).toFinset ⊆ Finset.Icc 1 gen := by
    intro m member
    obtain ⟨_, listed, rfl⟩ := List.mem_map.mp (mem_toFinset.mp member)
    obtain ⟨recordOk, bounded⟩ := valid.records _ _ (mem_ledger listed)
    have positive := ((validate_record_iff _).mp recordOk.validRecord).2.1
    exact Finset.mem_Icc.mpr ⟨by omega, bounded⟩
  have whole := Finset.eq_of_subset_of_card_le inside (by
    rw [toFinset_card_of_nodup distinct, length_map, length_toList, valid.size]
    simp)
  have member := Finset.ext_iff.mp whole n
  rw [mem_toFinset, List.mem_map, Finset.mem_Icc] at member
  exact member

theorem validate_ledger_ok (ledger : Ledger) (gen : Nat) (valid : LedgerOk ledger gen) :
    validateLedgerGeneration ledger gen = .ok () := by
  obtain ⟨collected, runs, members⟩ := validate_records_collects gen ledger.toList ∅ ∅
    (ledger_distinct valid) (fun entry listed => valid.records _ _ (mem_ledger listed))
    (fun _ _ => ExtTreeSet.not_mem_empty) (fun _ _ => ExtTreeSet.not_mem_empty)
  have sorted : collected.toList.Pairwise (· < ·) :=
    List.Pairwise.imp (fun less => Nat.compare_eq_lt.mp less) (ExtTreeSet.ordered_toList (t := collected))
  have listed : collected.toList = range' 1 gen := by
    apply List.Pairwise.eq_of_mem_iff sorted (pairwise_lt_range')
    intro n
    rw [ExtTreeSet.mem_toList, members, ledger_complete n valid, mem_range'_1]
    simp only [ExtTreeSet.not_mem_empty, false_or]
    omega
  unfold validateLedgerGeneration
  rw [if_neg (by simp [valid.size]), runs]
  change (if collected.toList ≠ range' 1 gen then Except.error ServiceError.corruptState else Except.ok ()) = _
  rw [if_neg (by simp [listed])]

end HeptaBao.Durable
