import HeptaBao.Durable.Loading

namespace HeptaBao.Durable

open Wire Std Exec List ExtTreeMap

-- The checks of recover, one hypothesis for each.
theorem frontier_accepts (svc : Service) (ledgerGeneration : Nat) (replay : Replay) (published : Bool)
    (publication : publishedPending svc.snapshot replay.pending = published)
    (size : replay.committed.size = replay.committedGeneration)
    (frontier : published = false → svc.snapshot.generation = replay.committedGeneration ∧ svc.snapshot.lastCommit =
      replay.lastCommit)
    (zero : svc.snapshot.generation = 0 → svc.snapshot.entries.isEmpty = true ∧ svc.snapshot.lastCommit = none)
    (notAhead : ledgerGeneration ≤ replay.committedGeneration)
    (notBehind : replay.committedGeneration ≤ ledgerGeneration + 1)
    (small : ledgerGeneration + 1 < 2 ^ 64)
    (agrees : ∀ (key : RequestKey) (mark : CommitMarker), replay.committed[key]? = some mark →
      ledgerAgrees svc.ledger ledgerGeneration (key, mark) = true)
    (covers : ∀ (key : RequestKey) (record : LedgerRecord), svc.ledger[key]? = some record →
      replay.committed.contains key = true)
    (cap : replay.committed.size + (if published then 1 else 0) ≤ svc.maxRetainedRequests) :
    checkFrontier svc ledgerGeneration replay = .ok published := by
  have allAgree : replay.committed.toList.all (ledgerAgrees svc.ledger ledgerGeneration) = true := by
    rw [all_eq_true]
    intro entry listed
    exact agrees entry.1 entry.2 (mem_toList_iff_getElem?_eq_some.mp listed)
  have allCovered : svc.ledger.toList.all (fun entry => replay.committed.contains entry.1) = true := by
    rw [all_eq_true]
    intro entry listed
    exact covers entry.1 entry.2 (mem_ledger listed)
  have matched : ¬ (published = false ∧ (svc.snapshot.generation ≠ replay.committedGeneration ∨ svc.snapshot.lastCommit ≠ replay.lastCommit)) := by
    intro bad
    obtain ⟨sameGeneration, sameLast⟩ := frontier bad.1
    rcases bad.2 with wrong | wrong
    · exact wrong sameGeneration
    · exact wrong sameLast
  have clean : ¬ (svc.snapshot.generation = 0 ∧ (svc.snapshot.entries.isEmpty = false ∨ svc.snapshot.lastCommit.isSome)) := by
    intro bad
    obtain ⟨empty, none⟩ := zero bad.1
    simp [empty, none] at bad
  unfold checkFrontier
  simp only [publication]
  rw [if_neg (by simp [size]), if_neg matched, if_neg clean, if_neg (by omega), allAgree, if_neg (by simp), allCovered,
    if_neg (by simp), if_neg (by omega)]

theorem markers_size (ledger : Ledger) : (markersOf ledger).size = ledger.size := size_map

theorem markers_contains {ledger : Ledger} {key : RequestKey} {record : LedgerRecord}
    (found : ledger[key]? = some record) :
    (markersOf ledger).contains key = true := by
  rw [contains_eq_isSome_getElem?, markers_lookup, found]
  rfl

theorem markers_found {ledger : Ledger} {key : RequestKey} {mark : CommitMarker}
    (found : (markersOf ledger)[key]? = some mark) :
    ∃ record, ledger[key]? = some record ∧ mark = markerOf key record := by
  rw [markers_lookup] at found
  cases known : ledger[key]? with
  | none =>
    rw [known] at found
    cases found
  | some record =>
    rw [known] at found
    cases found
    exact ⟨record, rfl, rfl⟩

theorem ledger_agrees_self {ledger : Ledger} {gen : Nat} (valid : LedgerOk ledger gen) (key : RequestKey)
    (mark : CommitMarker) (found : (markersOf ledger)[key]? = some mark) : ledgerAgrees ledger gen (key, mark) =
      true := by
  obtain ⟨record, known, rfl⟩ := markers_found found
  have bounded := (valid.records key record known).2
  simp [ledgerAgrees, markerOf, recordOf, bounded, known]

variable {inputs : List Bytes} {state : Committed}

theorem committed_zero {env : Env} (valid : CommittedOk env inputs state) (zero : state.snapshot.generation = 0) :
    state.snapshot.entries.isEmpty = true ∧ state.snapshot.lastCommit = none := by
  have size := valid.entries.size
  refine ⟨ExtTreeMap.isEmpty_iff.mpr (eq_empty_iff_size_eq_zero.mpr (by omega)), ?_⟩
  rcases valid.frontier with ⟨_, absent⟩ | ⟨key, record, found, newest, _⟩
  · exact absent
  · have positive := ((validate_record_iff _).mp (valid.ledger.records key record found).1.validRecord).2.1
    omega

def closing (published : Bool) (mark : CommitMarker) : JournalEvent :=
  if published then .commit mark else .abort mark

def closed (published : Bool) (mark : CommitMarker) (replay : Replay) : Replay :=
  if published then { replay with committed := replay.committed.insert mark.key mark }
  else { replay with reconciliation := replay.reconciliation.insert mark.recoveryReference .aborted }

-- After its checks recover has nothing open or closes one intent.
structure Resolves (env : Env) (inputs : List Bytes) (state : Committed) (files : Files) (replay : Replay) (published : Bool)
    (events : List JournalEvent) (final : Replay) : Prop where
  settled : Settled env inputs state events
  shape : (replay.pending = none ∧ events = files.events ∧ final = replay) ∨
    ∃ mark, replay.pending = some mark ∧ files.events.getLast? = some (.intent mark) ∧
      validateMarker mark = .ok () ∧ mark.generation < 2 ^ 64 ∧ files.events.length + 1 ≤ maxRecords ∧
        events = files.events ++ [closing published mark] ∧ final = closed published mark replay ∧
          Stage env inputs state ⟨files.snapshot, events, files.ledger⟩
  committed : final.committed = markersOf state.ledger
  aborted : AbortsOf events final.reconciliation

theorem stage_snapshot {env : Env} {files : Files} (stage : Stage env inputs state files) :
    files.snapshot = state.snapshot := by
  cases stage <;> rfl

end HeptaBao.Durable
