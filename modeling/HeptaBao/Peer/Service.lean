import HeptaBao.Peer.Envelope
import HeptaBao.Exec.Runs

namespace HeptaBao.Peer

open Wire Durable Exec List

structure OperationId where
  bytes : Bytes
  size : bytes.length = 16
deriving DecidableEq

inductive OperationKind where
  | linearizableRead
  | mutation
deriving DecidableEq

def OperationKind.tag : OperationKind → UInt8
  | linearizableRead => 1
  | mutation => 2

structure ClientOperation where
  operationId : OperationId
  kind : OperationKind
  payload : Bytes
deriving DecidableEq

def ClientOperation.material (op : ClientOperation) : Bytes :=
  op.operationId.bytes ++ op.kind.tag :: op.payload

structure ClientResult where
  term : UInt64
  appliedIndex : UInt64
  payload : Bytes
deriving DecidableEq

structure LeaderView where
  leader : NodeId
  term : UInt64
  commitIndex : UInt64
  quorumAvailable : Bool

-- Where an operation is handed on to.
inductive Route where
  | leaderMutation
  | linearizableRead
  | forward (leader : NodeId) (expectedTerm : UInt64)

-- One call of execute, with all that driver and forwarder have to say to it.
structure Attempt where
  operation : ClientOperation
  localNode : NodeId
  view : Except HaError LeaderView
  answer : Route → Except HaError ClientResult

def Attempt.route (attempt : Attempt) (view : LeaderView) : Route :=
  if view.leader = attempt.localNode then
    match attempt.operation.kind with
    | .mutation => .leaderMutation
    | .linearizableRead => .linearizableRead
  else .forward view.leader view.term

def Attempt.submits (attempt : Attempt) : Option Route :=
  match attempt.view with
  | .error _ => none
  | .ok view => if view.quorumAvailable then some (attempt.route view) else none

def Attempt.ask (attempt : Attempt) : Except HaError ClientResult :=
  match attempt.view with
  | .error flaw => .error flaw
  | .ok view =>
    if view.quorumAvailable = false then .error .quorumUnavailable
    else
      match attempt.answer (attempt.route view) with
      | .error flaw => .error flaw
      | .ok res =>
        if res.term ≠ view.term ∨ res.appliedIndex < view.commitIndex then .error .staleLeaderResponse else .ok res

structure HaService where
  completed : List (OperationId × (Digest × ClientResult))
  completedLimit : Nat

section Execute

variable (sha256 : Bytes → Digest)

def HaService.execute (svc : HaService) (attempt : Attempt) : Except HaError ClientResult × HaService :=
  match svc.completed.lookup attempt.operation.operationId with
  | some (knownDigest, res) =>
    if knownDigest ≠ sha256 attempt.operation.material then (.error .operationIdConflict, svc) else (.ok res, svc)
  | none =>
    match attempt.ask with
    | .error flaw => (.error flaw, svc)
    | .ok res =>
      -- the table is looked at only now, with the operation already carried out
      if svc.completedLimit ≤ svc.completed.length then (.error .capacityExceeded, svc)
      else
        let entry := (attempt.operation.operationId, (sha256 attempt.operation.material, res))
        (.ok res, { svc with completed := entry :: svc.completed })

def HaService.submitted (svc : HaService) (attempt : Attempt) : Option Route :=
  match svc.completed.lookup attempt.operation.operationId with
  | some _ => none
  | none => attempt.submits

def HaService.after (svc : HaService) (attempt : Attempt) : HaService := (svc.execute sha256 attempt).2

theorem lookup_after {svc : HaService} {id : OperationId} {entry : Digest × ClientResult} (attempt : Attempt)
    (known : svc.completed.lookup id = some entry) : (svc.after sha256 attempt).completed.lookup id = some entry := by
  unfold HaService.after HaService.execute
  cases found : svc.completed.lookup attempt.operation.operationId with
  | some other =>
    dsimp only
    split <;> exact known
  | none =>
    cases attempt.ask with
    | error => exact known
    | ok res =>
      dsimp only
      split
      · exact known
      · have apart : (id == attempt.operation.operationId) = false := by
          refine beq_eq_false_iff_ne.mpr fun same => ?_
          rw [← same, known] at found
          cases found
        rw [lookup_cons, apart]
        exact known

theorem lookup_run {svc : HaService} {id : OperationId} {entry : Digest × ClientResult} (attempts : List Attempt)
    (known : svc.completed.lookup id = some entry) : (run (HaService.after sha256) svc attempts).completed.lookup id =
      some entry :=
  run_preserves (HaService.after sha256) (·.completed.lookup id = some entry)
    (fun _ attempt known => lookup_after sha256 attempt known) svc attempts known

theorem material_injective {a b : ClientOperation} (sameId : a.operationId = b.operationId)
    (same : a.material = b.material) : a = b := by
  obtain ⟨idA, kindA, payloadA⟩ := a
  obtain ⟨idB, kindB, payloadB⟩ := b
  cases sameId
  obtain ⟨sameTag, rfl⟩ := List.cons.inj (append_cancel_left same)
  have sameKind : kindA = kindB := by cases kindA <;> cases kindB <;> first | rfl | cases sameTag
  rw [sameKind]

theorem ask_submits {attempt : Attempt} {res : ClientResult} (good : attempt.ask = .ok res) :
    attempt.submits ≠ none := by
  unfold Attempt.ask at good
  unfold Attempt.submits
  cases viewed : attempt.view with
  | error flaw =>
    rw [viewed] at good
    cases good
  | ok view =>
    rw [viewed] at good
    cases quorum : view.quorumAvailable with
    | false => simp [quorum] at good
    | true => simp [quorum]

/-- An answered operation is never submitted again exactly if its answer found room in the table. -/
theorem ha_service_deduplicates_iff (limit : Nat) (before : List Attempt) (attempt : Attempt) (res : ClientResult)
    (unknown : (run (HaService.after sha256) ⟨[], limit⟩ before).completed.lookup attempt.operation.operationId = none)
    (good : attempt.ask = .ok res) : (∀ (middle : List Attempt) (later : Attempt), later.operation.operationId =
      attempt.operation.operationId →
      (sha256 later.operation.material = sha256 attempt.operation.material → later.operation.material =
        attempt.operation.material) →
      let svc := run (HaService.after sha256) ⟨[], limit⟩ (before ++ attempt :: middle)
      svc.submitted later = none ∧
      (later.operation = attempt.operation → (svc.execute sha256 later).1 = .ok res) ∧
      (later.operation ≠ attempt.operation → (svc.execute sha256 later).1 = .error .operationIdConflict)) ↔
    (run (HaService.after sha256) ⟨[], limit⟩ before).completed.length < (run (HaService.after sha256) ⟨[], limit⟩ before).completedLimit := by
  generalize reached : run (HaService.after sha256) ⟨[], limit⟩ before = svc at unknown
  have shape (middle : List Attempt) : run (HaService.after sha256) ⟨[], limit⟩ (before ++ attempt :: middle) =
      run (HaService.after sha256) (svc.after sha256 attempt) middle := by
    rw [run_append, reached, run_cons]
  simp only [shape]
  constructor
  · intro kept
    by_contra full
    have left : svc.after sha256 attempt = svc := by
      simp only [HaService.after, HaService.execute, unknown, good, if_pos (Nat.not_lt.mp full)]
    have repeated := (kept [] attempt rfl fun _ => rfl).1
    rw [left] at repeated
    change svc.submitted attempt = none at repeated
    rw [HaService.submitted, unknown] at repeated
    exact ask_submits good repeated
  · intro room middle later sameId free
    have recorded : (svc.after sha256 attempt).completed.lookup attempt.operation.operationId = some (sha256 attempt.operation.material, res) := by
      simp only [HaService.after, HaService.execute, unknown, good, if_neg (Nat.not_le.mpr room)]
      rw [lookup_cons, beq_self_eq_true]
    have known := lookup_run sha256 middle recorded
    rw [← sameId] at known
    refine ⟨by rw [HaService.submitted, known], fun same => ?_, fun different => ?_⟩
    · rw [HaService.execute, known]
      dsimp only
      rw [same, if_neg (not_not.mpr rfl)]
    · have apart : sha256 attempt.operation.material ≠ sha256 later.operation.material :=
        fun same => different (material_injective sameId (free same.symm))
      simp only [HaService.execute, known, ne_eq, apart, not_false_eq_true, if_true]

end Execute

def attemptOf (id : UInt8) : Attempt where
  operation := ⟨⟨replicate 16 id, rfl⟩, .mutation, [id]⟩
  localNode := voterA
  view := .ok ⟨voterA, 1, 1, true⟩
  answer _ := .ok ⟨1, 1, [id]⟩

-- A table of two entries: the second mutation is in it for good, also after a third.
theorem ha_service_deduplicates_second :
    let svc := run (HaService.after sha256Digest) ⟨[], 2⟩ ([attemptOf 1] ++ attemptOf 2 :: [attemptOf 3])
    let other := { attemptOf 2 with operation := ⟨⟨replicate 16 2, rfl⟩, .mutation, [9]⟩ }
    svc.submitted (attemptOf 2) = none ∧ (svc.execute sha256Digest (attemptOf 2)).1 = .ok ⟨1, 1, [2]⟩ ∧
      svc.submitted other = none ∧ (svc.execute sha256Digest other).1 = .error .operationIdConflict := by
  intro svc other
  have kept := (ha_service_deduplicates_iff sha256Digest 2 [attemptOf 1] (attemptOf 2) ⟨1, 1, [2]⟩ rfl rfl).mpr (by decide) [attemptOf 3]
  have apart : sha256Digest other.operation.material ≠ sha256Digest (attemptOf 2).operation.material := by decide +kernel
  have same := kept (attemptOf 2) rfl fun _ => rfl
  have differs := kept other rfl fun equal => absurd equal apart
  exact ⟨same.1, same.2.1 rfl, differs.1, differs.2.2 (by decide)⟩

-- With one entry only, the second is carried out, not recorded, and carried out again.
theorem full_table_resubmits : (HaService.submitted (run (HaService.after sha256Digest) ⟨[], 1⟩ [attemptOf 1])
    (attemptOf 2)).isSome = true ∧
    (HaService.execute sha256Digest (run (HaService.after sha256Digest) ⟨[], 1⟩ [attemptOf 1]) (attemptOf 2)).1 =
      .error .capacityExceeded ∧
    (HaService.submitted (run (HaService.after sha256Digest) ⟨[], 1⟩ [attemptOf 1, attemptOf 2])
    (attemptOf 2)).isSome = true := by
  decide

end HeptaBao.Peer
