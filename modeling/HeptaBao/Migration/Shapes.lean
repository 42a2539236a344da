import HeptaBao.Migration.Transitions

namespace HeptaBao.Migration

open Wire Std Durable List

variable {inv : MigrationInventory} {oid : Str}

theorem find_ok {object : MigrationObject} (found : inv.find oid = .ok object) : object ∈ inv.objects ∧
    object.objectId = oid := by
  unfold MigrationInventory.find at found
  cases first : inv.objects.find? fun object => object.objectId = oid with
  | none => simp [first] at found
  | some =>
    simp only [first, Except.ok.injEq] at found
    subst found
    exact ⟨mem_of_find?_eq_some first, by simpa using find?_some first⟩

theorem ascending_pairwise (ids : List Str) (order : ascending ids = true) : ids.Pairwise fun a b => compare a b =
    .lt := by
  induction ids with
  | nil => exact .nil
  | cons _ rest ih =>
    cases rest with
    | nil => exact pairwise_singleton _ _
    | cons =>
      simp only [ascending, Bool.and_eq_true, beq_iff_eq] at order
      have tail := ih order.2
      refine pairwise_cons.mpr ⟨fun other listed => ?_, tail⟩
      rcases mem_cons.mp listed with rfl | later
      · exact order.1
      · exact TransCmp.lt_trans order.1 ((pairwise_cons.mp tail).1 other later)

theorem objects_distinct (order : ascending (inv.objects.map MigrationObject.objectId) = true)
    {first second : MigrationObject} (firstListed : first ∈ inv.objects) (secondListed : second ∈ inv.objects)
    (same : first.objectId = second.objectId) : first = second := by
  have distinct : (inv.objects.map MigrationObject.objectId).Nodup := by
    refine (ascending_pairwise _ order).imp fun {a b} before equal => ?_
    subst equal
    have self : compare a a = .eq := ReflCmp.compare_self
    rw [self] at before
    cases before
  exact inj_on_of_nodup_map distinct firstListed secondListed same

variable (state : Option MigrationObjectState) (opId : Str)

namespace JournalRecord

theorem previous_attempt_ok {record : JournalRecord} {attempts : UInt32}
    (found : record.previousAttempt oid = .ok attempts) :
    ∃ last, record.objects[oid]? = some (.pending last attempts) := by
  unfold previousAttempt at found
  cases stored : record.objects[oid]? with
  | none => simp [stored] at found
  | some state =>
    cases state with
    | pending last =>
      simp only [stored, Except.ok.injEq] at found
      exact ⟨last, by rw [found]⟩
    | intentPersisted | outcomeUnknownAfterEntry | verified | failedClosed => simp [stored] at found

theorem intent_attempt_ok (attempt : UInt32)
    (seen : intentAttempt state opId = .ok attempt) : state = some (.intentPersisted opId attempt) := by
  unfold intentAttempt at seen
  split at seen
  · split at seen
    · rename_i same
      cases seen
      rw [same]
    · cases seen
  · cases seen
  · cases seen

theorem active_attempt_found (attempt : UInt32) (active : activeAttempt state opId = .ok attempt) :
    state = some (.intentPersisted opId attempt) ∨ state = some (.outcomeUnknownAfterEntry opId attempt) := by
  unfold activeAttempt at active
  split at active
  · split at active
    · rename_i same
      cases active
      exact .inl (by rw [same])
    · cases active
  · split at active
    · rename_i same
      cases active
      exact .inr (by rw [same])
    · cases active
  · cases active

theorem unknown_attempt_ok (attempt : UInt32)
    (seen : unknownAttempt state opId = .ok attempt) : state = some (.outcomeUnknownAfterEntry opId attempt) := by
  unfold unknownAttempt at seen
  split at seen
  · split at seen
    · rename_i same
      cases seen
      rw [same]
    · cases seen
  · cases seen

theorem failed_operation_ok (opId : Option Str) (allowed : failedOperation state = .ok opId) :
    (opId = none ∧ ∃ last attempts, state = some (.pending last attempts)) ∨ ∃ running attempt, opId = some running ∧
        (state = some (.intentPersisted running attempt) ∨
          state = some (.outcomeUnknownAfterEntry running attempt)) := by
  cases state with
  | none => cases allowed
  | some state =>
    cases state with
    | pending last attempts =>
      cases allowed
      exact .inl ⟨rfl, last, attempts, rfl⟩
    | intentPersisted running attempt =>
      cases allowed
      exact .inr ⟨running, attempt, rfl, .inl rfl⟩
    | outcomeUnknownAfterEntry running attempt =>
      cases allowed
      exact .inr ⟨running, attempt, rfl, .inr rfl⟩
    | verified | failedClosed => cases allowed

-- What a transition can make of a record, with everything it asked for.
inductive Shift (inv : MigrationInventory) (record : JournalRecord) : Transition → JournalRecord → Prop
  | fenceSource (receipt : WriterFenceReceipt) (checked : receipt.validate = .ok ()) (planned : record.phase = .planned)
      (disables : receipt.writerEnabled = false) : Shift inv record (.fenceSource receipt) { record with
        sourceWriter := false
        sourceFenceSha256 := some receipt.sha256
        sourceFenceGeneration := some receipt.generation
        phase := .sourceFenced }
  | beginObject (oid opId : Str) (object : MigrationObject) (last : Option Str) (attempts : UInt32)
      (phase : record.phase = .sourceFenced ∨ record.phase = .copying) (sourceOff : record.sourceWriter = false)
      (targetOff : record.targetWriter = false) (named : validateId opId = .ok ()) (found : inv.find oid = .ok object)
      (fresh : opId ∉ record.usedOperationIds)
      (ready : ∀ dependency ∈ object.dependencies, record.objects[dependency]?.any MigrationObjectState.isVerified = true)
      (pending : record.objects[oid]? = some (.pending last attempts)) (small : attempts.toNat + 1 < 2 ^ 32) :
      Shift inv record (.beginObject oid opId) { record.withObject oid (.intentPersisted opId (attempts + 1)) with
        phase := .copying
        usedOperationIds := record.usedOperationIds.insert opId }
  | markOutcomeUnknown (oid opId : Str) (attempt : UInt32) (copying : record.phase = .copying)
      (intent : record.objects[oid]? = some (.intentPersisted opId attempt)) :
      Shift inv record (.markOutcomeUnknown oid opId)
        (record.withObject oid (.outcomeUnknownAfterEntry opId attempt))
  | confirmCommitted (oid opId : Str) (object : MigrationObject) (attempt : UInt32) (copying : record.phase = .copying)
      (digest : validateSha256 object.expectedTargetSha256 = .ok ()) (found : inv.find oid = .ok object)
      (active : record.objects[oid]? = some (.intentPersisted opId attempt) ∨ record.objects[oid]? = some (.outcomeUnknownAfterEntry opId attempt)) :
      Shift inv record (.confirmCommitted oid opId object.expectedTargetSha256)
        (record.withObject oid (.verified opId attempt object.expectedTargetSha256))
  | confirmNotCommitted (oid opId : Str) (attempt : UInt32) (copying : record.phase = .copying)
      (unknown : record.objects[oid]? = some (.outcomeUnknownAfterEntry opId attempt)) :
      Shift inv record (.confirmNotCommitted oid opId) (record.withObject oid (.pending (some opId) attempt))
  | failObject (oid reasonCode : Str) (opId : Option Str) (reason : validateReasonCode reasonCode = .ok ())
      (phase : record.phase = .sourceFenced ∨ record.phase = .copying ∨ record.phase = .cutoverReady)
      (unsettled : failedOperation record.objects[oid]? = .ok opId) :
      Shift inv record (.failObject oid reasonCode) { record.withObject oid (.failedClosed opId reasonCode) with
        phase := .failedClosed
        sourceWriter := false
        targetWriter := false }
  | verifyCopy (copying : record.phase = .copying) (sourceOff : record.sourceWriter = false) (targetOff : record.targetWriter = false)
      (verified : record.states.all MigrationObjectState.isVerified = true) :
      Shift inv record .verifyCopy { record with phase := .cutoverReady }
  | activateTarget (receipt : WriterFenceReceipt) (anchorSha256 : Str) (checked : receipt.validate = .ok ())
      (anchored : validateSha256 anchorSha256 = .ok ()) (ready : record.phase = .cutoverReady) (sourceOff : record.sourceWriter = false)
      (targetOff : record.targetWriter = false) (enables : receipt.writerEnabled = true) :
      Shift inv record (.activateTarget receipt anchorSha256) { record with
        targetWriter := true
        targetActivationSha256 := some receipt.sha256
        targetActivationGeneration := some receipt.generation
        cutoverAnchorSha256 := some anchorSha256
        phase := .targetActive }
  | fenceTarget (receipt : WriterFenceReceipt) (checked : receipt.validate = .ok ()) (active : record.phase = .targetActive)
      (disables : receipt.writerEnabled = false) (newer : record.targetActivationGeneration.any (· < receipt.generation) = true) :
      Shift inv record (.fenceTarget receipt) { record with
        targetWriter := false
        targetFenceSha256 := some receipt.sha256
        targetFenceGeneration := some receipt.generation
        phase := .targetFenced }
  | rollback (receipt : WriterFenceReceipt) (anchorSha256 : Str) (checked : receipt.validate = .ok ())
      (anchored : validateSha256 anchorSha256 = .ok ())
      (phase : record.phase = .sourceFenced ∨ record.phase = .copying ∨ record.phase = .cutoverReady ∨ record.phase = .targetFenced)
      (targetOff : record.targetWriter = false) (enables : receipt.writerEnabled = true)
      (newer : record.sourceFenceGeneration.any (· < receipt.generation) = true)
      (resolved : record.states.all (fun state => !state.isUnresolved) = true) :
      Shift inv record (.rollback receipt anchorSha256) { record with
        sourceWriter := true
        sourceReactivationSha256 := some receipt.sha256
        sourceReactivationGeneration := some receipt.generation
        rollbackAnchorSha256 := some anchorSha256
        phase := .rolledBack }

theorem begin_object_shift {record : JournalRecord} {opId : Str}
    {made : JournalRecord × CopyIntent} (begun : beginObject inv record oid opId = .ok made) :
    Shift inv record (.beginObject oid opId) made.1 := by
  obtain ⟨allowed, begun⟩ := unit_bind_ok begun
  obtain ⟨named, begun⟩ := unit_bind_ok begun
  obtain ⟨object, found, begun⟩ := bind_ok begun
  obtain ⟨fresh, begun⟩ := unit_bind_ok begun
  obtain ⟨ready, begun⟩ := unit_bind_ok begun
  obtain ⟨attempts, prev, begun⟩ := bind_ok begun
  obtain ⟨counted, begun⟩ := unit_bind_ok begun
  obtain ⟨phase, sourceOff, targetOff⟩ := (require_ok).mp allowed
  obtain ⟨last, pending⟩ := previous_attempt_ok prev
  have unused : opId ∉ record.usedOperationIds := by
    intro member
    have absent := (require_ok).mp fresh
    rw [ExtTreeSet.contains_iff_mem.mpr member] at absent
    cases absent
  cases begun
  exact .beginObject oid opId object last attempts phase sourceOff targetOff named found unused
    (fun dependency listed => (require_ok).mp ((each_ok _ _).mp ready dependency listed)) pending ((require_ok).mp counted)

theorem candidate_shift (record : JournalRecord) {transition : Transition} {next : JournalRecord}
    (made : record.candidate inv transition = .ok next) : Shift inv record transition next := by
  cases transition with
  | fenceSource receipt =>
    obtain ⟨checked, made⟩ := unit_bind_ok made
    obtain ⟨allowed, made⟩ := unit_bind_ok made
    obtain ⟨planned, _, disables⟩ := (require_ok).mp allowed
    cases made
    exact .fenceSource receipt checked planned disables
  | beginObject oid opId =>
    cases begun : beginObject inv record oid opId with
    | error => simp [candidate, begun, Except.map] at made
    | ok =>
      simp only [candidate, begun, Except.map, Except.ok.injEq] at made
      rw [← made]
      exact begin_object_shift begun
  | markOutcomeUnknown oid opId =>
    obtain ⟨allowed, made⟩ := unit_bind_ok made
    obtain ⟨attempt, seen, made⟩ := bind_ok made
    cases made
    exact .markOutcomeUnknown oid opId attempt ((require_ok).mp allowed) (intent_attempt_ok _ _ _ seen)
  | confirmCommitted oid opId =>
    obtain ⟨allowed, made⟩ := unit_bind_ok made
    obtain ⟨digest, made⟩ := unit_bind_ok made
    obtain ⟨object, found, made⟩ := bind_ok made
    obtain ⟨expected, made⟩ := unit_bind_ok made
    obtain ⟨attempt, active, made⟩ := bind_ok made
    have same := (require_ok).mp expected
    subst same
    cases made
    exact .confirmCommitted oid opId object attempt ((require_ok).mp allowed) digest found (active_attempt_found _ _ _ active)
  | confirmNotCommitted oid opId =>
    obtain ⟨allowed, made⟩ := unit_bind_ok made
    obtain ⟨attempt, seen, made⟩ := bind_ok made
    cases made
    exact .confirmNotCommitted oid opId attempt ((require_ok).mp allowed) (unknown_attempt_ok _ _ _ seen)
  | failObject oid reasonCode =>
    obtain ⟨reason, made⟩ := unit_bind_ok made
    obtain ⟨allowed, made⟩ := unit_bind_ok made
    obtain ⟨opId, seen, made⟩ := bind_ok made
    cases made
    exact .failObject oid reasonCode opId reason ((require_ok).mp allowed) seen
  | verifyCopy =>
    obtain ⟨allowed, made⟩ := unit_bind_ok made
    obtain ⟨copying, sourceOff, targetOff, verified⟩ := (require_ok).mp allowed
    cases made
    exact .verifyCopy copying sourceOff targetOff verified
  | activateTarget receipt anchorSha256 =>
    obtain ⟨checked, made⟩ := unit_bind_ok made
    obtain ⟨anchored, made⟩ := unit_bind_ok made
    obtain ⟨allowed, made⟩ := unit_bind_ok made
    obtain ⟨ready, sourceOff, targetOff, _, enables⟩ := (require_ok).mp allowed
    cases made
    exact .activateTarget receipt anchorSha256 checked anchored ready sourceOff targetOff enables
  | fenceTarget receipt =>
    obtain ⟨checked, made⟩ := unit_bind_ok made
    obtain ⟨allowed, made⟩ := unit_bind_ok made
    obtain ⟨active, _, disables, newer⟩ := (require_ok).mp allowed
    cases made
    exact .fenceTarget receipt checked active disables newer
  | rollback receipt anchorSha256 =>
    obtain ⟨checked, made⟩ := unit_bind_ok made
    obtain ⟨anchored, made⟩ := unit_bind_ok made
    obtain ⟨allowed, made⟩ := unit_bind_ok made
    obtain ⟨resolved, made⟩ := unit_bind_ok made
    obtain ⟨phase, targetOff, _, enables, newer⟩ := (require_ok).mp allowed
    cases made
    exact .rollback receipt anchorSha256 checked anchored phase targetOff enables newer ((require_ok).mp resolved)

end JournalRecord

end HeptaBao.Migration
