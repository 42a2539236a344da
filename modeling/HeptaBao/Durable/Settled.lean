import HeptaBao.Durable.Consistency

namespace HeptaBao.Durable

open Wire Std List

-- No open intent: an empty start or a checkpoint, then terminated intents.
inductive Settled (env : Env) (inputs : List Bytes) : Committed → List JournalEvent → Prop
  | fresh : Settled env inputs Committed.empty []
  | checkpoint (state : Committed) (point : CheckpointMarker) (valid : CommittedOk env inputs state)
      (taken : checkpointMarker env state.snapshot state.ledger = .ok point) :
      Settled env inputs state [.checkpoint point]
  | commit (state : Committed) (events : List JournalEvent) (mark : CommitMarker) (entries : Entries)
      (before : Settled env inputs state events) (legal : Admissible env inputs state events.length mark)
      (entriesOk : EntriesOk entries mark.generation) :
      Settled env inputs (state.commit mark entries) (events ++ [.intent mark, .commit mark])
  | abort (state : Committed) (events : List JournalEvent) (mark : CommitMarker)
      (before : Settled env inputs state events) (legal : Admissible env inputs state events.length mark) :
      Settled env inputs state (events ++ [.intent mark, .abort mark])

variable {env : Env} {inputs : List Bytes} {state : Committed} {events : List JournalEvent}

theorem settled_ok (free : CollisionFree env inputs) (settled : Settled env inputs state events) :
    CommittedOk env inputs state := by
  induction settled with
  | fresh => exact empty_committed_ok env inputs
  | checkpoint _ _ valid => exact valid
  | commit state events mark entries _ legal entriesOk ih =>
    exact commit_ok free ih legal entriesOk
  | abort _ _ _ _ _ ih => exact ih

theorem settled_events {env : Env} {inputs : List Bytes} {state : Committed} {events : List JournalEvent}
    (settled : Settled env inputs state events) :
    (∀ event ∈ events, EventOk event) ∧ events.length ≤ maxRecords := by
  induction settled with
  | fresh => exact ⟨by simp, by simp⟩
  | checkpoint state point valid taken =>
    have eventOk := (checkpoint_validates valid taken).2.2.2
    refine ⟨?_, show 1 ≤ maxRecords by decide⟩
    intro event member
    rw [mem_singleton.mp member]
    exact eventOk
  | commit state events mark _ _ legal _ ih | abort state events mark _ legal ih =>
    have markerOk := admissible_marker legal
    refine ⟨?_, by simpa using legal.room⟩
    intro event member
    simp only [mem_append, mem_cons, not_mem_nil, or_false] at member
    rcases member with older | rfl | rfl
    · exact ih.1 event older
    · exact markerOk
    · exact markerOk

def markersOf (ledger : Ledger) : Markers := ledger.map markerOf

theorem markers_lookup (ledger : Ledger) (key : RequestKey) : (markersOf ledger)[key]? =
    ledger[key]?.map (markerOf key) :=
  ExtTreeMap.getElem?_map

theorem markers_insert (ledger : Ledger) (mark : CommitMarker) :
    (markersOf ledger).insert mark.key mark = markersOf (ledger.insert mark.key (recordOf mark)) := by
  apply ExtTreeMap.ext_getElem?
  intro key
  rw [markers_lookup, lookup_insert, lookup_insert, markers_lookup]
  by_cases same : mark.key = key
  · subst same
    simp [markerOf, recordOf]
  · simp [same]

theorem records_of_markers (ledger : Ledger) : (markersOf ledger).map (fun _ mark => recordOf mark) = ledger := by
  apply ExtTreeMap.ext_getElem?
  intro key
  rw [ExtTreeMap.getElem?_map, markers_lookup, Option.map_map]
  cases ledger[key]? with
  | none | some => rfl

def AbortsOf (events : List JournalEvent) (reconciliation : ExtTreeMap Str ReconciliationStatus) : Prop :=
  ∀ (ref : Str) (status : ReconciliationStatus), reconciliation[ref]? = some status ↔
    status = .aborted ∧ ∃ mark, .abort mark ∈ events ∧ mark.recoveryReference = ref

variable {reconciliation : ExtTreeMap Str ReconciliationStatus}

theorem aborts_of_commit (mark : CommitMarker) (aborts : AbortsOf events reconciliation) :
    AbortsOf (events ++ [.intent mark, .commit mark]) reconciliation := by
  intro ref status
  rw [aborts ref status]
  simp

theorem aborts_of_abort (mark : CommitMarker) (aborts : AbortsOf events reconciliation) :
    AbortsOf (events ++ [.intent mark, .abort mark]) (reconciliation.insert mark.recoveryReference .aborted) := by
  intro ref status
  rw [lookup_insert]
  by_cases same : mark.recoveryReference = ref
  · rw [if_pos same]
    constructor
    · intro known
      cases known
      exact ⟨rfl, mark, by simp, same⟩
    · intro known
      rw [known.1]
  · rw [if_neg same, aborts ref status]
    constructor
    · intro known
      obtain ⟨rfl, other, member, matched⟩ := known
      exact ⟨rfl, other, by simp [member], matched⟩
    · intro known
      obtain ⟨rfl, other, member, matched⟩ := known
      refine ⟨rfl, other, ?_, matched⟩
      simp only [mem_append, mem_cons, not_mem_nil, or_false, reduceCtorEq, false_or] at member
      rcases member with older | here
      · exact older
      · cases here
        exact absurd matched same

structure Describes (env : Env) (inputs : List Bytes) (state : Committed) (events : List JournalEvent) (replay : Replay) : Prop where
  pending : replay.pending = none
  committed : replay.committed = markersOf state.ledger
  lastCommit : replay.lastCommit = state.snapshot.lastCommit
  generation : replay.committedGeneration = state.snapshot.generation
  references : ∀ ref ∈ replay.references, ∃ digest gen seq,
    Issued env inputs digest gen seq ref ∧ (gen ≤ state.snapshot.generation ∨ seq ≤ events.length)
  aborted : AbortsOf events replay.reconciliation

theorem replay_append (env : Env) (ledger : Ledger) (offset : Nat) (replay : Replay)
    (first second : List JournalEvent) :
    replayFrom env ledger offset replay (first ++ second) =
      (replayFrom env ledger offset replay first >>= fun middle => replayFrom env ledger (offset + first.length)
        middle second) := by
  induction first generalizing offset replay with
  | nil => rfl
  | cons event _ ih =>
    simp only [cons_append, replayFrom, length_cons]
    cases replayEvent env ledger offset replay event with
    | error => rfl
    | ok =>
      simp only [bind, Except.bind] at ih ⊢
      rw [ih]
      simp only [Nat.add_assoc, Nat.add_comm 1]

variable {mark : CommitMarker}

theorem describes_fresh_reference (free : CollisionFree env inputs) {replay : Replay}
    (describes : Describes env inputs state events replay)
    (legal : Admissible env inputs state events.length mark) : mark.recoveryReference ∉ replay.references := by
  intro present
  obtain ⟨_, _, _, issued, old⟩ := describes.references _ present
  obtain ⟨_, _, _⟩ := issued_injective free issued legal.issued
  have next := legal.generation
  rcases old with earlier | earlier
  · omega
  · omega

theorem replay_intent_accepted (free : CollisionFree env inputs) {replay : Replay}
    (describes : Describes env inputs state events replay)
    (legal : Admissible env inputs state events.length mark) :
    replayIntent env events.length replay mark = .ok { replay with
      pending := some mark
      references := replay.references.insert mark.recoveryReference } := by
  have small := max_records_small
  have room := legal.room
  have bounded := legal.bounded
  have next := legal.generation
  have absent : mark.key ∉ replay.committed := by
    rw [describes.committed, ExtTreeMap.mem_iff_isSome_getElem?, markers_lookup, legal.fresh]
    simp
  have unseen := describes_fresh_reference free describes legal
  have expected : ¬ (mark.generation ≠ state.snapshot.generation + 1 ∨ mark.recoveryReference ≠
      recoveryReference env mark.bindingDigest mark.generation (events.length + 1) ∨ mark.recoveryReference ∈ replay.references) := by
    simp only [not_or, not_not]
    exact ⟨next, legal.issued.reference, unseen⟩
  unfold replayIntent
  rw [(admissible_marker legal).1, checked_add_small _ _ (by omega)]
  simp only [bind, Except.bind, describes.generation, checked_add_small state.snapshot.generation 1 (by omega)]
  rw [if_neg (by simp [describes.pending, absent])]
  exact if_neg expected

theorem describes_commit (free : CollisionFree env inputs) {replay : Replay} (entries : Entries) (ledger : Ledger)
    (describes : Describes env inputs state events replay) (legal : Admissible env inputs state events.length mark) :
    ∃ next, replayFrom env ledger events.length replay [.intent mark, .commit mark] = .ok next ∧
      Describes env inputs (state.commit mark entries) (events ++ [.intent mark, .commit mark]) next := by
  have next := legal.generation
  refine ⟨{ replay with
      pending := none
      committedGeneration := mark.generation
      lastCommit := some mark
      committed := replay.committed.insert mark.key mark
      references := replay.references.insert mark.recoveryReference }, ?_,
    ⟨rfl, ?_, rfl, rfl, ?_, aborts_of_commit _ describes.aborted⟩⟩
  · simp only [replayFrom, replayEvent, replay_intent_accepted free describes legal, bind, Except.bind, ne_eq, not_true_eq_false, if_false]
  · simp only [describes.committed, Committed.commit, markers_insert]
  · intro ref present
    rw [ExtTreeSet.mem_insert, LawfulEqOrd.compare_eq_iff_eq] at present
    rcases present with rfl | older
    · exact ⟨_, _, _, legal.issued, .inl (Nat.le_refl _)⟩
    · obtain ⟨digest, gen, seq, issued, _⟩ := describes.references ref older
      refine ⟨digest, gen, seq, issued, ?_⟩
      simp only [Committed.commit, length_append, length_cons, length_nil]
      omega

theorem describes_abort (free : CollisionFree env inputs) {replay : Replay} (ledger : Ledger)
    (describes : Describes env inputs state events replay) (legal : Admissible env inputs state events.length mark) :
    ∃ next, replayFrom env ledger events.length replay [.intent mark, .abort mark] = .ok next ∧
      Describes env inputs state (events ++ [.intent mark, .abort mark]) next := by
  refine ⟨{ replay with
      pending := none
      references := replay.references.insert mark.recoveryReference
      reconciliation := replay.reconciliation.insert mark.recoveryReference .aborted }, ?_,
    ⟨rfl, describes.committed, describes.lastCommit, describes.generation, ?_, aborts_of_abort _ describes.aborted⟩⟩
  · simp only [replayFrom, replayEvent, replay_intent_accepted free describes legal, bind, Except.bind, ne_eq, not_true_eq_false, if_false]
  · intro ref present
    rw [ExtTreeSet.mem_insert, LawfulEqOrd.compare_eq_iff_eq] at present
    simp only [length_append, length_cons, length_nil]
    rcases present with rfl | older
    · exact ⟨_, _, _, legal.issued, .inr (by omega)⟩
    · obtain ⟨digest, gen, seq, issued, _⟩ := describes.references ref older
      exact ⟨digest, gen, seq, issued, by omega⟩

end HeptaBao.Durable
