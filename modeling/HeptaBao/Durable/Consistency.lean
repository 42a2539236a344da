import HeptaBao.Durable.Committed
import HeptaBao.Durable.Sizes

namespace HeptaBao.Durable

open Wire Std List ExtTreeMap

theorem ledger_absent (ledger : Ledger) (key : RequestKey) (absent : ledger[key]? = none) :
    ledger.contains key = false := by
  rw [contains_eq_isSome_getElem?, absent]
  rfl

theorem empty_committed_ok (env : Env) (inputs : List Bytes) : CommittedOk env inputs Committed.empty := by
  refine ⟨⟨?_, ?_, ?_, ?_⟩, ⟨?_, ?_⟩, ?_, .inl ⟨rfl, rfl⟩, ?_⟩ <;> simp [Committed.empty, emptySnapshot]

variable {count : Nat} {mark : CommitMarker}

variable {env : Env} {inputs : List Bytes} {state : Committed}

-- No old record has the next generation or the new reference.
theorem commit_ledger_ok (free : CollisionFree env inputs)
    (valid : CommittedOk env inputs state) (legal : Admissible env inputs state count mark) :
    LedgerOk (state.ledger.insert mark.key (recordOf mark)) mark.generation := by
  have next := legal.generation
  have older : ∀ (key : RequestKey) (record : LedgerRecord), state.ledger[key]? = some record →
      record.generation ≠ mark.generation ∧ record.recoveryReference ≠ mark.recoveryReference := by
    intro key record found
    have bounded := (valid.ledger.records key record found).2
    refine ⟨by omega, ?_⟩
    intro same
    obtain ⟨_, issued⟩ := valid.issued key record found
    rw [same] at issued
    have generations := (issued_injective free issued legal.issued).2.1
    omega
  constructor
  · rw [size_insert, ledger_absent _ _ legal.fresh, if_neg (by simp), valid.ledger.size]
    omega
  · intro key record found
    rw [lookup_insert] at found
    by_cases same : mark.key = key
    · rw [if_pos same] at found
      cases found
      subst same
      exact ⟨admissible_record legal, Nat.le_refl _⟩
    · rw [if_neg same] at found
      obtain ⟨recordOk, _⟩ := valid.ledger.records key record found
      exact ⟨recordOk, by omega⟩
  · intro key key' record record' found found' same
    rw [lookup_insert] at found found'
    by_cases here : mark.key = key
    · by_cases here' : mark.key = key'
      · rw [← here, here']
      · rw [if_pos here] at found
        rw [if_neg here'] at found'
        cases found
        exact absurd same.symm (older key' record' found').1
    · rw [if_neg here] at found
      by_cases here' : mark.key = key'
      · rw [if_pos here'] at found'
        cases found'
        exact absurd same (older key record found).1
      · rw [if_neg here'] at found'
        exact valid.ledger.generations key key' record record' found found' same
  · intro key key' record record' found found' same
    rw [lookup_insert] at found found'
    by_cases here : mark.key = key
    · by_cases here' : mark.key = key'
      · rw [← here, here']
      · rw [if_pos here] at found
        rw [if_neg here'] at found'
        cases found
        exact absurd same.symm (older key' record' found').2
    · rw [if_neg here] at found
      by_cases here' : mark.key = key'
      · rw [if_pos here'] at found'
        cases found'
        exact absurd same (older key record found).2
      · rw [if_neg here'] at found'
        exact valid.ledger.references key key' record record' found found' same

theorem commit_ok (free : CollisionFree env inputs) {entries : Entries} (valid : CommittedOk env inputs state)
    (legal : Admissible env inputs state count mark) (entriesOk : EntriesOk entries mark.generation) :
    CommittedOk env inputs (state.commit mark entries) := by
  refine ⟨commit_ledger_ok free valid legal, entriesOk, legal.bounded, .inr ?_, ?_⟩
  · refine ⟨mark.key, recordOf mark, ?_, rfl, rfl⟩
    simp [Committed.commit]
  · intro key record found
    simp only [Committed.commit, lookup_insert] at found
    by_cases same : mark.key = key
    · rw [if_pos same] at found
      cases found
      exact ⟨count + 1, legal.issued⟩
    · rw [if_neg same] at found
      exact valid.issued key record found

theorem frontier_marker_found {ledger : Ledger} {gen : Nat} {key : RequestKey} {record : LedgerRecord}
    (valid : LedgerOk ledger gen) (found : ledger[key]? = some record) :
    frontierMarker ledger record.generation = .ok (markerOf key record) := by
  have listed : (key, record) ∈ ledger.toList := mem_toList_iff_getElem?_eq_some.mpr found
  unfold frontierMarker
  cases search : ledger.toList.find? (fun entry => entry.2.generation = record.generation) with
  | none =>
    have missed := find?_eq_none.mp search (key, record) listed
    simp at missed
  | some entry =>
    have matched : entry.2.generation = record.generation := by simpa using find?_some search
    have present := mem_ledger (mem_of_find?_eq_some search)
    have sameKey := valid.generations _ _ _ _ present found matched
    have recordOk := (valid.records _ _ present).1
    obtain ⟨name, _⟩ := entry
    simp only at sameKey matched present recordOk
    subst sameKey
    rw [found] at present
    cases present
    have validMarker := (validate_marker_iff (markerOf name record)).mpr ⟨recordOk.validKey, recordOk.validRecord⟩
    simp only [markerFromLedger, recordOk.validRecord, validMarker]
    rfl

section

variable (env : Env) (inputs : List Bytes) (state : Committed) (valid : CommittedOk env inputs state)

include valid

variable {env inputs state} in
theorem committed_validates : validateCommittedState state.snapshot state.snapshot.generation state.ledger =
    .ok () := by
  unfold validateCommittedState
  rw [if_neg (by simp), validate_ledger_ok _ _ valid.ledger]
  change (if state.snapshot.generation = 0 then
    if state.snapshot.lastCommit.isSome ∨ state.ledger.isEmpty = false then Except.error ServiceError.corruptState else .ok ()
    else do
      let mark ← frontierMarker state.ledger state.snapshot.generation
      if state.snapshot.lastCommit ≠ some mark then Except.error ServiceError.corruptState else .ok ()) = _
  rcases valid.frontier with ⟨zero, absent⟩ | ⟨key, record, found, newest, last⟩
  · have empty : state.ledger.isEmpty = true := ExtTreeMap.isEmpty_iff.mpr (eq_empty_iff_size_eq_zero.mpr (by rw [valid.ledger.size, zero]))
    rw [if_pos zero, if_neg (by simp [absent, empty])]
  · have positive := ((validate_record_iff _).mp (valid.ledger.records key record found).1.validRecord).2.1
    rw [if_neg (by omega), ← newest, frontier_marker_found valid.ledger found, last]
    exact if_neg (by simp)

theorem last_commit_ok : LastCommitOk state.snapshot.lastCommit := by
  intro mark known
  rcases valid.frontier with ⟨_, absent⟩ | ⟨key, record, found, _, last⟩
  · rw [absent] at known
    cases known
  · rw [last] at known
    cases known
    have recordOk := (valid.ledger.records key record found).1
    exact ⟨(validate_marker_iff _).mpr ⟨recordOk.validKey, recordOk.validRecord⟩, recordOk.bounded⟩

variable {env inputs state} in
theorem committed_snapshot_ok : SnapshotOk state.snapshot := by
  have small := max_records_small
  have bounded := valid.bounded
  have size := valid.entries.size
  exact ⟨by omega, last_commit_ok env inputs state valid, valid.entries.valid, by omega⟩

variable {env inputs state} in
theorem committed_records_ok : ∀ (key : RequestKey) (record : LedgerRecord), state.ledger[key]? = some record →
    RecordOk key record := fun key record found => (valid.ledger.records key record found).1

end

-- The ledger holds the state's records and possibly later ones.
def Extends (ledger : Ledger) (state : Committed) : Prop :=
  ledger.filter (fun _ record => record.generation ≤ state.snapshot.generation) = state.ledger

theorem extends_iff (ledger : Ledger) (state : Committed) : Extends ledger state ↔
    ∀ key : RequestKey, ledger[key]?.filter (fun record => record.generation ≤ state.snapshot.generation) =
      state.ledger[key]? := by
  constructor
  · intro same key
    rw [← same, getElem?_filter']
  · intro pointwise
    apply ExtTreeMap.ext_getElem?
    intro key
    rw [getElem?_filter', pointwise]

theorem extends_self (valid : CommittedOk env inputs state) : Extends state.ledger state := by
  rw [extends_iff]
  intro key
  cases found : state.ledger[key]? with
  | none => rfl
  | some record => simp [(valid.ledger.records key record found).2]

theorem extends_commit {entries : Entries}
    {ledger : Ledger} (valid : CommittedOk env inputs state) (legal : Admissible env inputs state count mark)
    (extended : Extends ledger (state.commit mark entries)) : Extends ledger state := by
  rw [extends_iff] at extended ⊢
  intro key
  have next := legal.generation
  have here := extended key
  simp only [Committed.commit, lookup_insert] at here
  by_cases same : mark.key = key
  · rw [if_pos same] at here
    subst same
    rw [legal.fresh]
    cases found : ledger[mark.key]? with
    | none => rfl
    | some =>
      rw [found, Option.filter_some] at here
      split at here
      · cases here
        simp only [Option.filter_some, recordOf]
        rw [if_neg (by simp; omega)]
      · cases here
  · rw [if_neg same] at here
    cases found : ledger[key]? with
    | none =>
      rw [← here, found]
      rfl
    | some record =>
      rw [found, Option.filter_some] at here
      rw [Option.filter_some]
      split at here
      · rename_i within
        have bounded := (valid.ledger.records key record here.symm).2
        rw [if_pos (by simpa using bounded), here]
      · rename_i beyond
        have later : ¬ record.generation ≤ state.snapshot.generation := by
          intro within
          exact beyond (decide_eq_true (show record.generation ≤ mark.generation by omega))
        rw [if_neg (by simpa using later), here]

theorem ledger_prefix_extends {ledger : Ledger} (valid : CommittedOk env inputs state)
    (extended : Extends ledger state) :
    ledgerPrefix ledger state.snapshot.generation = .ok state.ledger := by
  unfold ledgerPrefix
  rw [extended, validate_ledger_ok _ _ valid.ledger]
  rfl

theorem checkpoint_validates {point : CheckpointMarker}
    (valid : CommittedOk env inputs state) (taken : checkpointMarker env state.snapshot state.ledger = .ok point) :
    validateCheckpoint env point state.ledger = .ok () ∧ point.generation = state.snapshot.generation ∧
      point.lastCommit = state.snapshot.lastCommit ∧ EventOk (.checkpoint point) := by
  obtain ⟨_, taken⟩ := unit_bind_ok taken
  obtain ⟨encoded, wrote, taken⟩ := bind_ok taken
  cases taken
  have size := valid.ledger.size
  have bounded := valid.bounded
  have small := max_records_small
  refine ⟨?_, rfl, rfl, by simp only; omega, by simp only; omega, last_commit_ok env inputs state valid⟩
  unfold validateCheckpoint
  rw [if_neg (by simp [size]), validate_ledger_ok _ _ valid.ledger, wrote]
  change (if digest32 env checkpointLedgerDomain encoded ≠ digest32 env checkpointLedgerDomain encoded then
      Except.error ServiceError.corruptState
    else if state.snapshot.generation = 0 then
      if state.snapshot.lastCommit.isSome then Except.error ServiceError.corruptState else .ok ()
    else do
      let mark ← frontierMarker state.ledger state.snapshot.generation
      if state.snapshot.lastCommit ≠ some mark then Except.error ServiceError.corruptState else .ok ()) = _
  rw [if_neg (by simp)]
  rcases valid.frontier with ⟨zero, absent⟩ | ⟨key, record, found, newest, last⟩
  · rw [if_pos zero, if_neg (by simp [absent])]
  · have positive := ((validate_record_iff _).mp (valid.ledger.records key record found).1.validRecord).2.1
    rw [if_neg (by omega), ← newest, frontier_marker_found valid.ledger found, last]
    exact if_neg (by simp)

theorem checkpoint_taken (valid : CommittedOk env inputs state) :
    ∃ point, checkpointMarker env state.snapshot state.ledger = .ok point := by
  have size := valid.ledger.size
  have bounded := valid.bounded
  obtain ⟨_, wrote, _⟩ := encode_ledger_length state.ledger (committed_records_ok valid) (by omega)
  refine ⟨_, by simp only [checkpointMarker, committed_validates valid, wrote]; rfl⟩

end HeptaBao.Durable
