import HeptaBao.Durable.Settled

namespace HeptaBao.Durable

open Wire Std List

theorem marker_from_ledger_ok (key : RequestKey) (record : LedgerRecord) (valid : RecordOk key record) :
    markerFromLedger key record = .ok (markerOf key record) := by
  have validMarker := (validate_marker_iff (markerOf key record)).mpr ⟨valid.validKey, valid.validRecord⟩
  simp only [markerFromLedger, valid.validRecord, validMarker]
  rfl

-- Induction on the retained records: references met and still to come stay apart.
theorem retain_records_collects (entries : List (RequestKey × LedgerRecord)) (committed : Markers)
    (references : ExtTreeSet Str)
    (distinct : distinctRecords entries) (valid : ∀ entry ∈ entries, RecordOk entry.1 entry.2)
    (fresh : ∀ entry ∈ entries, entry.2.recoveryReference ∉ references) :
      ∃ collected, retainRecords entries committed references =
        .ok (entries.foldl (fun built entry => built.insert entry.1 (markerOf entry.1 entry.2)) committed, collected) ∧
      ∀ ref ∈ collected, ref ∈ references ∨ ∃ entry ∈ entries, entry.2.recoveryReference = ref := by
  induction entries generalizing committed references with
  | nil => exact ⟨references, rfl, fun ref member => .inl member⟩
  | cons entry _ ih =>
    obtain ⟨key, record⟩ := entry
    obtain ⟨apart, distinctRest⟩ := pairwise_cons.mp distinct
    have unseen : record.recoveryReference ∉ references := fresh (key, record) mem_cons_self
    obtain ⟨collected, runs, members⟩ := ih (committed.insert key (markerOf key record))
      (references.insert record.recoveryReference) distinctRest
      (fun other member => valid other (mem_cons_of_mem _ member))
      (fun other member => by
        rw [ExtTreeSet.mem_insert, LawfulEqOrd.compare_eq_iff_eq, not_or]
        exact ⟨(apart other member).2, fresh other (mem_cons_of_mem _ member)⟩)
    refine ⟨collected, ?_, ?_⟩
    · simp only [retainRecords, marker_from_ledger_ok key record (valid (key, record) mem_cons_self), bind, Except.bind]
      exact (if_neg unseen).trans runs
    · intro ref member
      rcases members ref member with old | ⟨other, listed, same⟩
      · rw [ExtTreeSet.mem_insert, LawfulEqOrd.compare_eq_iff_eq] at old
        rcases old with here | old
        · exact .inr ⟨(key, record), mem_cons_self, here⟩
        · exact .inl old
      · exact .inr ⟨other, mem_cons_of_mem _ listed, same⟩

variable {inputs : List Bytes} {state : Committed}

theorem describes_checkpoint {env : Env} {point : CheckpointMarker} {ledger : Ledger}
    (valid : CommittedOk env inputs state)
    (taken : checkpointMarker env state.snapshot state.ledger = .ok point) (extended : Extends ledger state) :
    ∃ replay, replayFrom env ledger 0 (.start ∅) [.checkpoint point] = .ok replay ∧
      Describes env inputs state [.checkpoint point] replay := by
  obtain ⟨validates, gen, lastCommit, _⟩ := checkpoint_validates valid taken
  obtain ⟨collected, runs, members⟩ := retain_records_collects state.ledger.toList ∅ ∅
    (ledger_distinct valid.ledger) (fun entry listed => (valid.ledger.records _ _ (mem_ledger listed)).1)
    (fun _ _ => ExtTreeSet.not_mem_empty)
  rw [fold_insert_map] at runs
  refine ⟨⟨none, markersOf state.ledger, point.lastCommit, point.generation, collected, true, ∅⟩, ?_, ⟨rfl, rfl, lastCommit, gen, ?_, ?_⟩⟩
  · have retained : ledgerPrefix ledger point.generation = .ok state.ledger := by
      rw [gen]
      exact ledger_prefix_extends valid extended
    simp only [replayFrom, replayEvent, replayCheckpoint, Replay.start, retained, validates, runs, bind, Except.bind]
    rfl
  · intro ref member
    rcases members ref member with impossible | ⟨entry, listed, same⟩
    · exact absurd impossible ExtTreeSet.not_mem_empty
    · have found := mem_ledger listed
      obtain ⟨seq, issued⟩ := valid.issued _ _ found
      rw [same] at issued
      exact ⟨_, _, seq, issued, .inl (valid.ledger.records _ _ found).2⟩
  · intro ref status
    simp

theorem describes_fresh (env : Env) (inputs : List Bytes) : Describes env inputs Committed.empty [] (.start ∅) := by
  refine ⟨rfl, ?_, rfl, rfl, ?_, ?_⟩
  · apply ExtTreeMap.ext_getElem?
    intro key
    simp [Replay.start, markersOf, Committed.empty]
  · intro ref member
    exact absurd member ExtTreeSet.not_mem_empty
  · intro ref status
    simp [Replay.start]

theorem settled_replays {env : Env} (free : CollisionFree env inputs)
    {events : List JournalEvent} (settled : Settled env inputs state events) {ledger : Ledger}
    (extended : Extends ledger state) :
    ∃ replay, replayFrom env ledger 0 (.start ∅) events = .ok replay ∧ Describes env inputs state events replay := by
  induction settled with
  | fresh => exact ⟨_, rfl, describes_fresh env inputs⟩
  | checkpoint state point valid taken => exact describes_checkpoint valid taken extended
  | commit state events _ entries before legal _ ih =>
    have valid := settled_ok free before
    obtain ⟨middle, runs, describes⟩ := ih (extends_commit valid legal extended)
    obtain ⟨next, finishes, described⟩ := describes_commit free entries ledger
      describes legal
    refine ⟨next, ?_, described⟩
    rw [replay_append, runs, Nat.zero_add]
    exact finishes
  | abort state events mark _ legal ih =>
    obtain ⟨middle, runs, describes⟩ := ih extended
    obtain ⟨next, finishes, described⟩ := describes_abort free ledger describes legal
    refine ⟨next, ?_, described⟩
    rw [replay_append, runs, Nat.zero_add]
    exact finishes

end HeptaBao.Durable
