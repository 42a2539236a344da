import HeptaBao.Durable.Frontier

namespace HeptaBao.Durable

open Wire Std Exec

-- Both checks of recover on one stage, and how it goes on from there.
def Recovers (env : Env) (inputs : List Bytes) (cap : Nat) (state : Committed) (files : Files) (body tail : Bytes) :
    Prop :=
  ∃ replay published events final, replayFrom env files.ledger 0 (.start ∅) files.events = .ok replay ∧
    checkFrontier (Loaded.of files body tail cap).service files.ledger.size replay = .ok published ∧
      Resolves env inputs state files replay published events final

section

variable (env : Env) (inputs : List Bytes) (free : CollisionFree env inputs) (cap : Nat) (state : Committed)
  (events : List JournalEvent) (settled : Settled env inputs state events) (body tail : Bytes)

include free settled

theorem quiet_recovers (within : state.snapshot.generation ≤ cap) :
    Recovers env inputs cap state ⟨state.snapshot, events, state.ledger⟩ body tail := by
  have valid := settled_ok free settled
  have size := valid.ledger.size
  have small := max_records_small
  have bounded := valid.bounded
  obtain ⟨replay, runs, describes⟩ := settled_replays free settled
    (extends_self valid)
  refine ⟨replay, false, events, replay, runs, ?_, settled, .inl ⟨describes.pending, rfl, rfl⟩, describes.committed, describes.aborted⟩
  apply frontier_accepts
  · rw [describes.pending]
    rfl
  · rw [describes.committed, markers_size, describes.generation, size]
  · intro _
    exact ⟨describes.generation.symm, describes.lastCommit.symm⟩
  · exact committed_zero valid
  · rw [describes.generation, size]
  · rw [describes.generation, size]
    omega
  · simp only [size]
    omega
  · rw [describes.committed, size]
    exact ledger_agrees_self valid.ledger
  · intro key record found
    rw [describes.committed]
    exact markers_contains found
  · rw [describes.committed, markers_size, size]
    exact within

variable (mark : CommitMarker) (legal : Admissible env inputs state events.length mark)

include legal

theorem intended_recovers (within : state.snapshot.generation ≤ cap) :
    Recovers env inputs cap state ⟨state.snapshot, events ++ [.intent mark], state.ledger⟩ body tail := by
  have valid := settled_ok free settled
  have size := valid.ledger.size
  have small := max_records_small
  have bounded := valid.bounded
  have next := legal.generation
  have room := legal.room
  have markerOk := admissible_marker legal
  have closedJournal := Settled.abort state events mark settled legal
  obtain ⟨replay, runs, describes⟩ := settled_replays free settled
    (extends_self valid)
  have accepted := replay_intent_accepted free describes legal
  refine ⟨{ replay with
      pending := some mark
      references := replay.references.insert mark.recoveryReference }, false, events ++ [.intent mark] ++ [.abort mark],
    _, ?_, ?_, ?_, .inr ⟨mark, rfl, by simp, markerOk.1, markerOk.2, by simp; omega, rfl, rfl, ?_⟩, describes.committed, ?_⟩
  · rw [replay_append, runs, Nat.zero_add]
    simp only [bind, Except.bind, replayFrom, replayEvent, accepted]
  · apply frontier_accepts
    · refine decide_eq_false (fun both => ?_)
      have sameGeneration : state.snapshot.generation = mark.generation := both.1
      omega
    · rw [describes.committed, markers_size, describes.generation, size]
    · intro _
      exact ⟨describes.generation.symm, describes.lastCommit.symm⟩
    · exact committed_zero valid
    · simp only [describes.generation, size, Nat.le_refl]
    · simp only [describes.generation, size]
      omega
    · simp only [size]
      omega
    · simp only [describes.committed, size]
      exact ledger_agrees_self valid.ledger
    · intro key record found
      simp only [describes.committed]
      exact markers_contains found
    · simp only [describes.committed, markers_size, size]
      exact within
  · simpa using closedJournal
  · have quiet := Stage.quiet state _ closedJournal
    simpa using quiet
  · have aborts := aborts_of_abort mark describes.aborted
    simpa [closed] using aborts

variable (entries : Entries) (entriesOk : EntriesOk entries mark.generation)

include entriesOk

theorem published_recovers (within : mark.generation ≤ cap) : Recovers env inputs cap (state.commit mark entries)
      ⟨(state.commit mark entries).snapshot, events ++ [.intent mark], state.ledger⟩ body tail := by
  have valid := settled_ok free settled
  have size := valid.ledger.size
  have small := max_records_small
  have bounded := valid.bounded
  have next := legal.generation
  have room := legal.room
  have markerOk := admissible_marker legal
  have closedJournal := Settled.commit state events mark entries settled legal entriesOk
  obtain ⟨replay, runs, describes⟩ := settled_replays free settled
    (extends_self valid)
  have accepted := replay_intent_accepted free describes legal
  refine ⟨{ replay with
      pending := some mark
      references := replay.references.insert mark.recoveryReference }, true, events ++ [.intent mark] ++ [.commit mark],
    _, ?_, ?_, ?_, .inr ⟨mark, rfl, by simp, markerOk.1, markerOk.2, by simp; omega, rfl, rfl, ?_⟩, ?_, ?_⟩
  · rw [replay_append, runs, Nat.zero_add]
    simp only [bind, Except.bind, replayFrom, replayEvent, accepted]
  · apply frontier_accepts
    · simp [publishedPending, Loaded.of, Committed.commit]
    · rw [describes.committed, markers_size, describes.generation, size]
    · intro impossible
      cases impossible
    · intro zero
      simp only [Loaded.of, Committed.commit] at zero
      omega
    · simp only [describes.generation, size, Nat.le_refl]
    · simp only [describes.generation, size]
      omega
    · simp only [size]
      omega
    · simp only [describes.committed, size]
      exact ledger_agrees_self valid.ledger
    · intro key record found
      simp only [describes.committed]
      exact markers_contains found
    · simp only [describes.committed, markers_size, size, if_true]
      change state.snapshot.generation + 1 ≤ cap
      omega
  · simpa using closedJournal
  · have logged := Stage.logged state events mark entries settled legal entriesOk
    simpa [closing] using logged
  · simp only [closed, if_true, describes.committed, markers_insert]
    rfl
  · have aborts := aborts_of_commit mark describes.aborted
    simpa [closed] using aborts

theorem logged_recovers (within : mark.generation ≤ cap) : Recovers env inputs cap (state.commit mark entries)
      ⟨(state.commit mark entries).snapshot, events ++ [.intent mark, .commit mark], state.ledger⟩ body tail := by
  have valid := settled_ok free settled
  have size := valid.ledger.size
  have small := max_records_small
  have bounded := valid.bounded
  have next := legal.generation
  have closedJournal := Settled.commit state events mark entries settled legal entriesOk
  have validNext := settled_ok free closedJournal
  have sizeNext : (state.commit mark entries).ledger.size = mark.generation := validNext.ledger.size
  obtain ⟨_, runs, describes⟩ := settled_replays free settled
    (extends_self valid)
  obtain ⟨final, finishes, described⟩ := describes_commit free entries state.ledger
    describes legal
  have gen : final.committedGeneration = mark.generation := described.generation
  refine ⟨final, false, _, final, ?_, ?_, closedJournal, .inl ⟨described.pending, rfl, rfl⟩, described.committed, described.aborted⟩
  · rw [replay_append, runs, Nat.zero_add]
    exact finishes
  · apply frontier_accepts
    · rw [described.pending]
      rfl
    · rw [described.committed, markers_size, gen, sizeNext]
    · intro _
      exact ⟨described.generation.symm, described.lastCommit.symm⟩
    · exact committed_zero validNext
    · rw [gen, size]
      omega
    · rw [gen, size]
      omega
    · simp only [size]
      omega
    · -- Older markers are in the ledger; the logged one is not there yet.
      intro key other found
      rw [described.committed] at found
      obtain ⟨record, known, rfl⟩ := markers_found found
      simp only [Committed.commit, lookup_insert] at known
      by_cases same : mark.key = key
      · rw [if_pos same] at known
        cases known
        subst same
        have later : ¬ mark.generation ≤ state.snapshot.generation := by omega
        simp [ledgerAgrees, markerOf, recordOf, size, later, Loaded.of, ledger_absent _ _ legal.fresh]
      · rw [if_neg same] at known
        have agrees := ledger_agrees_self valid.ledger key (markerOf key record) (by rw [markers_lookup, known]; rfl)
        change ledgerAgrees state.ledger state.ledger.size (key, markerOf key record) = true
        rw [size]
        exact agrees
    · intro key record found
      rw [described.committed]
      by_cases same : mark.key = key
      · exact @markers_contains _ key (recordOf mark) (by simp [Committed.commit, same])
      · exact markers_contains (by simp only [Committed.commit, lookup_insert, if_neg same]; exact found)
    · rw [described.committed, markers_size, sizeNext]
      exact within

end

theorem stage_recovers {env : Env} {inputs : List Bytes} (free : CollisionFree env inputs) {cap : Nat}
    {state : Committed}
    {files : Files} (stage : Stage env inputs state files) (within : state.snapshot.generation ≤ cap)
    (body tail : Bytes) :
    Recovers env inputs cap state files body tail := by
  cases stage with
  | quiet _ events settled => exact quiet_recovers env inputs free cap state events settled body tail within
  | intended _ events mark settled legal =>
    exact intended_recovers env inputs free cap state events settled body tail mark legal within
  | published before events mark entries settled legal entriesOk =>
    exact published_recovers env inputs free cap before events settled body tail mark legal entries entriesOk within
  | logged before events mark entries settled legal entriesOk =>
    exact logged_recovers env inputs free cap before events settled body tail mark legal entries entriesOk within

end HeptaBao.Durable
