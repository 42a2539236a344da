import HeptaBao.Migration.Shapes

namespace HeptaBao.Migration

open Wire Std Durable List ExtTreeMap

namespace JournalRecord

theorem mem_digests (record : JournalRecord) (digest : Str) : digest ∈ record.digests ↔
    record.sourceFenceSha256 = some digest ∨ record.targetActivationSha256 = some digest ∨ record.targetFenceSha256 =
      some digest ∨
      record.sourceReactivationSha256 = some digest ∨ record.cutoverAnchorSha256 = some digest ∨
        record.rollbackAnchorSha256 = some digest := by
  simp only [digests, reduceOption_mem_iff, mem_cons, not_mem_nil, or_false, eq_comm]

theorem states_all (record : JournalRecord) (holds : MigrationObjectState → Bool) :
    record.states.all holds = true ↔ ∀ (oid : Str) state, record.objects[oid]? = some state → holds state = true := by
  simp only [states, all_map, all_eq_true, Function.comp_apply]
  constructor
  · intro each oid state found
    exact each (oid, state) (mem_toList_iff_getElem?_eq_some.mpr found)
  · rintro each ⟨oid, state⟩ listed
    exact each oid state (mem_toList_iff_getElem?_eq_some.mp listed)

variable {oid : Str} {state : MigrationObjectState}

theorem states_any {record : JournalRecord} {holds : MigrationObjectState → Bool}
    (found : record.objects[oid]? = some state) (here : holds state = true) : record.states.any holds = true := by
  refine any_eq_true.mpr ⟨state, List.mem_map.mpr ⟨(oid, state), ?_, rfl⟩, here⟩
  exact mem_toList_iff_getElem?_eq_some.mpr found

theorem Valid.entry (record : JournalRecord) (valid : record.Valid) (oid : Str) (state : MigrationObjectState)
    (found : record.objects[oid]? = some state) : validateId oid = .ok () ∧
      validateState record.usedOperationIds state = .ok () :=
  unit_bind_ok (valid.entries (oid, state) (mem_toList_iff_getElem?_eq_some.mpr found))

variable (used : ExtTreeSet Str) (opId : Str)

theorem validate_attempt_ok (attempt : UInt32) : validateAttempt used opId attempt = .ok () ↔ attempt ≠ 0 ∧
    opId ∈ used := by
  rw [validateAttempt, require_ok, ExtTreeSet.contains_iff_mem]

theorem operation_ok (attempt : UInt32) : (validateId opId >>= fun _ => validateAttempt used opId attempt) = .ok () ↔
      validateId opId = .ok () ∧ attempt ≠ 0 ∧ opId ∈ used := by
  rw [← validate_attempt_ok]
  constructor
  · exact unit_bind_ok
  · rintro ⟨id, attempted⟩
    rw [id]
    exact attempted

theorem verified_ok (attempt : UInt32) (targetSha256 : Str) :
    validateState used (.verified opId attempt targetSha256) = .ok () ↔
      validateId opId = .ok () ∧ validateSha256 targetSha256 = .ok () ∧ attempt ≠ 0 ∧ opId ∈ used := by
  rw [← validate_attempt_ok]
  constructor
  · intro passes
    obtain ⟨id, rest⟩ := unit_bind_ok passes
    exact ⟨id, unit_bind_ok rest⟩
  · rintro ⟨id, digest, attempted⟩
    simp only [validateState, id, digest]
    exact attempted

theorem validate_state_mono (more : ExtTreeSet Str) (grows : ∀ id, id ∈ used → id ∈ more) (state : MigrationObjectState)
    (valid : validateState used state = .ok ()) : validateState more state = .ok () := by
  have raised : ∀ opId attempt, (validateId opId >>= fun _ => validateAttempt used opId attempt) = .ok () →
      (validateId opId >>= fun _ => validateAttempt more opId attempt) = .ok () := by
    intro opId attempt passes
    obtain ⟨id, positive, member⟩ := (operation_ok _ _ _).mp passes
    exact (operation_ok _ _ _).mpr ⟨id, positive, grows _ member⟩
  cases state with
  | pending last attempts =>
    cases last with
    | none => exact valid
    | some opId => exact raised opId attempts valid
  | intentPersisted opId attempt | outcomeUnknownAfterEntry opId attempt => exact raised opId attempt valid
  | verified =>
    obtain ⟨id, digest, positive, member⟩ := (verified_ok _ _ _ _).mp valid
    exact (verified_ok _ _ _ _).mpr ⟨id, digest, positive, grows _ member⟩
  | failedClosed opId => cases opId <;> exact valid

theorem receipt_ok {receipt : WriterFenceReceipt} (passes : receipt.validate = .ok ()) :
    receipt.generation ≠ 0 ∧ validateSha256 receipt.sha256 = .ok () := by
  obtain ⟨_, passes⟩ := unit_bind_ok passes
  obtain ⟨positive, digest⟩ := unit_bind_ok passes
  exact ⟨(require_ok).mp positive, digest⟩

variable {old : MigrationObjectState} {opId : Str}

variable (record : JournalRecord) (valid : record.Valid) (gen : UInt64) (nonzero : gen ≠ 0)

include valid

theorem replaced_size (state : MigrationObjectState) (found : record.objects[oid]? = some old) :
    (record.objects.insert oid state).size ≠ 0 ∧ (record.objects.insert oid state).size ≤ maxObjects := by
  have held : record.objects.contains oid = true := by
    rw [contains_eq_isSome_getElem?, found]
    rfl
  rw [size_insert, if_pos held]
  exact valid.counts.2

theorem replaced_entries (found : record.objects[oid]? = some old)
    {used : ExtTreeSet Str} (grows : ∀ id, id ∈ record.usedOperationIds → id ∈ used)
    (sound : validateState used state = .ok ()) :
    ∀ entry ∈ (record.objects.insert oid state).toList, validateEntry used entry = .ok () := by
  rintro ⟨other, kept⟩ listed
  have here := mem_toList_iff_getElem?_eq_some.mp listed
  rw [lookup_insert] at here
  have entry : validateId other = .ok () ∧ validateState used kept = .ok () := by
    split at here
    · rename_i same
      subst same
      cases here
      exact ⟨(valid.entry record oid old found).1, sound⟩
    · obtain ⟨id, before⟩ := valid.entry record other kept here
      exact ⟨id, validate_state_mono _ used grows kept before⟩
  simp only [validateEntry, entry.1]
  exact entry.2

include nonzero

variable {record gen} in
theorem replaced_valid (copying : record.phase = .copying)
    (found : record.objects[oid]? = some old) (sound : validateState record.usedOperationIds state = .ok ()) :
    ({ record.withObject oid state with generation := gen } : JournalRecord).Valid := by
  have phaseOk : ({ record.withObject oid state with generation := gen } : JournalRecord).phaseObjects = true := by
    simp [phaseObjects, withObject, copying]
  exact ⟨valid.schema, valid.binding, ⟨nonzero, replaced_size record valid state found⟩, valid.writers, valid.fenced,
    valid.activated, valid.stopped, valid.reactivated, valid.digests,
    replaced_entries record valid found (fun _ member => member) sound, phaseOk, valid.used⟩

omit nonzero in
theorem digests_kept (next : JournalRecord)
    (fresh : ∀ digest ∈ next.digests, digest ∈ record.digests ∨ validateSha256 digest = .ok ()) :
    ∀ digest ∈ next.digests, validateSha256 digest = .ok () := by
  intro digest listed
  rcases fresh digest listed with before | checked
  · exact valid.digests digest before
  · exact checked

variable (receipt : WriterFenceReceipt)

theorem fence_source_valid (checked : receipt.validate = .ok ()) (phase : record.phase = .planned) : ({ record with
      sourceWriter := false
      sourceFenceSha256 := some receipt.sha256
      sourceFenceGeneration := some receipt.generation
      phase := .sourceFenced
      generation := gen } : JournalRecord).Valid := by
  obtain ⟨positive, digest⟩ := receipt_ok checked
  have writers := valid.writers
  simp only [phase, writersOf, Prod.mk.injEq] at writers
  refine ⟨valid.schema, valid.binding, ⟨nonzero, valid.counts.2⟩, Prod.ext rfl writers.2, .inr ?_, .inl (by simp),
    .inl (by simp), .inl (by simp), digests_kept record valid _ fun other listed => ?_,
    valid.entries, rfl, valid.used⟩
  · simp [sourceFenced, JournalRecord.positive, positive]
  · rw [mem_digests] at listed ⊢
    rcases listed with here | later
    · cases here
      exact .inr digest
    · exact .inl (.inr later)

theorem begin_object_valid {last : Option Str} {attempts : UInt32}
    (phase : record.phase = .sourceFenced ∨ record.phase = .copying) (sourceOff : record.sourceWriter = false)
    (targetOff : record.targetWriter = false) (named : validateId opId = .ok ())
    (found : record.objects[oid]? = some (.pending last attempts)) (small : attempts.toNat + 1 < 2 ^ 32) :
    ({ record.withObject oid (.intentPersisted opId (attempts + 1)) with
      phase := .copying
      usedOperationIds := record.usedOperationIds.insert opId
      generation := gen } : JournalRecord).Valid := by
  have planned : record.phase ≠ .planned := by rcases phase with same | same <;> simp [same]
  have grows : ∀ id, id ∈ record.usedOperationIds → id ∈ record.usedOperationIds.insert opId :=
    fun id member => ExtTreeSet.mem_insert.mpr (.inr member)
  have attempted : attempts + 1 ≠ 0 := by
    intro zero
    have value := congrArg UInt32.toNat zero
    rw [UInt32.toNat_add] at value
    simp only [UInt32.reduceToNat] at value
    omega
  have sound : validateState (record.usedOperationIds.insert opId) (.intentPersisted opId (attempts + 1)) = .ok () :=
    (operation_ok _ _ _).mpr ⟨named, attempted, ExtTreeSet.mem_insert.mpr (.inl ReflCmp.compare_self)⟩
  refine ⟨valid.schema, valid.binding, ⟨nonzero, replaced_size record valid _ found⟩, Prod.ext sourceOff targetOff,
    .inr (valid.fenced.resolve_left planned), .inl (by simp), .inl (by simp),
    .inl (by simp), valid.digests, replaced_entries record valid found grows sound, rfl, ?_⟩
  intro id listed
  rcases ExtTreeSet.mem_insert.mp (ExtTreeSet.mem_toList.mp listed) with same | member
  · rw [LawfulEqCmp.compare_eq_iff_eq] at same
    rw [← same]
    exact named
  · exact valid.used id (ExtTreeSet.mem_toList.mpr member)

theorem confirm_committed_valid {targetSha256 : Str} {attempt : UInt32} (copying : record.phase = .copying)
    (digest : validateSha256 targetSha256 = .ok ())
    (active : record.objects[oid]? = some (.intentPersisted opId attempt) ∨
      record.objects[oid]? = some (.outcomeUnknownAfterEntry opId attempt)) :
    ({ record.withObject oid (.verified opId attempt targetSha256) with generation := gen } : JournalRecord).Valid := by
  rcases active with found | found
  · obtain ⟨id, positive, member⟩ := (operation_ok _ _ _).mp (valid.entry record oid _ found).2
    exact replaced_valid valid nonzero copying found ((verified_ok _ _ _ _).mpr ⟨id, digest, positive, member⟩)
  · obtain ⟨id, positive, member⟩ := (operation_ok _ _ _).mp (valid.entry record oid _ found).2
    exact replaced_valid valid nonzero copying found ((verified_ok _ _ _ _).mpr ⟨id, digest, positive, member⟩)

theorem fail_object_valid {reasonCode : Str} {opId : Option Str} (reason : validateReasonCode reasonCode = .ok ())
    (phase : record.phase = .sourceFenced ∨ record.phase = .copying ∨ record.phase = .cutoverReady)
    (unsettled : failedOperation record.objects[oid]? = .ok opId) :
    ({ record.withObject oid (.failedClosed opId reasonCode) with
      phase := .failedClosed
      sourceWriter := false
      targetWriter := false
      generation := gen } : JournalRecord).Valid := by
  have planned : record.phase ≠ .planned := by rcases phase with same | same | same <;> simp [same]
  -- The operation the failure names is the one under way.
  have held : ∃ old, record.objects[oid]? = some old ∧ validateState record.usedOperationIds (.failedClosed opId reasonCode) = .ok () := by
    rcases failed_operation_ok _ _ unsettled with ⟨rfl, last, attempts, found⟩ | ⟨running, attempt, rfl, found⟩
    · exact ⟨_, found, reason⟩
    · have named : validateId running = .ok () := by
        rcases found with found | found <;> exact ((operation_ok _ _ _).mp (valid.entry record oid _ found).2).1
      have sound : validateState record.usedOperationIds (.failedClosed (some running) reasonCode) = .ok () := by
        simp only [validateState, named]
        exact reason
      rcases found with found | found <;> exact ⟨_, found, sound⟩
  obtain ⟨old, found, sound⟩ := held
  refine ⟨valid.schema, valid.binding, ⟨nonzero, replaced_size record valid _ found⟩, rfl,
    .inr (valid.fenced.resolve_left planned), .inl (by simp), .inl (by simp),
    .inl (by simp), valid.digests,
    replaced_entries record valid found (fun _ member => member) sound, ?_, valid.used⟩
  exact states_any ((lookup_insert _ _ _ _).trans (if_pos rfl)) rfl

variable (anchorSha256 : Str)

theorem activate_target_valid (checked : receipt.validate = .ok ())
    (anchored : validateSha256 anchorSha256 = .ok ()) (phase : record.phase = .cutoverReady)
    (sourceOff : record.sourceWriter = false) :
    ({ record with
      targetWriter := true
      targetActivationSha256 := some receipt.sha256
      targetActivationGeneration := some receipt.generation
      cutoverAnchorSha256 := some anchorSha256
      phase := .targetActive
      generation := gen } : JournalRecord).Valid := by
  obtain ⟨positive, digest⟩ := receipt_ok checked
  have planned : record.phase ≠ .planned := by simp [phase]
  have verified := valid.phase
  simp only [phaseObjects, phase] at verified
  refine ⟨valid.schema, valid.binding, ⟨nonzero, valid.counts.2⟩, Prod.ext sourceOff rfl, .inr (valid.fenced.resolve_left planned),
    .inr ?_, .inl (by simp), .inl (by simp), digests_kept record valid _ fun other listed => ?_,
    valid.entries, verified, valid.used⟩
  · simp [targetActivated, JournalRecord.positive, positive]
  · rw [mem_digests] at listed ⊢
    rcases listed with here | here | here | here | here | here
    · exact .inl (.inl here)
    · cases here
      exact .inr digest
    · exact .inl (.inr (.inr (.inl here)))
    · exact .inl (.inr (.inr (.inr (.inl here))))
    · cases here
      exact .inr anchored
    · exact .inl (.inr (.inr (.inr (.inr (.inr here)))))

theorem fence_target_valid (checked : receipt.validate = .ok ()) (phase : record.phase = .targetActive) : ({ record with
      targetWriter := false
      targetFenceSha256 := some receipt.sha256
      targetFenceGeneration := some receipt.generation
      phase := .targetFenced
      generation := gen } : JournalRecord).Valid := by
  obtain ⟨positive, digest⟩ := receipt_ok checked
  have planned : record.phase ≠ .planned := by simp [phase]
  have activated : record.targetActivated = true := valid.activated.resolve_left (not_not.mpr phase)
  have verified := valid.phase
  simp only [phaseObjects, phase] at verified
  have writers := valid.writers
  simp only [phase, writersOf, Prod.mk.injEq] at writers
  refine ⟨valid.schema, valid.binding, ⟨nonzero, valid.counts.2⟩, Prod.ext writers.1 rfl, .inr (valid.fenced.resolve_left planned),
    .inl (by simp), .inr ⟨activated, ?_⟩, .inl (by simp),
    digests_kept record valid _ fun other listed => ?_, valid.entries, verified, valid.used⟩
  · simp [targetFenced, JournalRecord.positive, positive]
  · rw [mem_digests] at listed ⊢
    rcases listed with here | here | here | later
    · exact .inl (.inl here)
    · exact .inl (.inr (.inl here))
    · cases here
      exact .inr digest
    · exact .inl (.inr (.inr (.inr later)))

theorem rollback_valid (checked : receipt.validate = .ok ()) (anchored : validateSha256 anchorSha256 = .ok ())
    (phase : record.phase = .sourceFenced ∨ record.phase = .copying ∨ record.phase = .cutoverReady ∨
      record.phase = .targetFenced)
    (targetOff : record.targetWriter = false) (resolved : record.states.all (fun state => !state.isUnresolved) = true) :
    ({ record with
      sourceWriter := true
      sourceReactivationSha256 := some receipt.sha256
      sourceReactivationGeneration := some receipt.generation
      rollbackAnchorSha256 := some anchorSha256
      phase := .rolledBack
      generation := gen } : JournalRecord).Valid := by
  obtain ⟨positive, digest⟩ := receipt_ok checked
  have planned : record.phase ≠ .planned := by rcases phase with same | same | same | same <;> simp [same]
  refine ⟨valid.schema, valid.binding, ⟨nonzero, valid.counts.2⟩, Prod.ext rfl targetOff, .inr (valid.fenced.resolve_left planned),
    .inl (by simp), .inl (by simp), .inr ?_, digests_kept record valid _ fun other listed => ?_,
    valid.entries, resolved, valid.used⟩
  · simp [sourceReactivated, JournalRecord.positive, positive]
  · rw [mem_digests] at listed ⊢
    rcases listed with here | here | here | here | here | here
    · exact .inl (.inl here)
    · exact .inl (.inr (.inl here))
    · exact .inl (.inr (.inr (.inl here)))
    · cases here
      exact .inr digest
    · exact .inl (.inr (.inr (.inr (.inr (.inl here)))))
    · cases here
      exact .inr anchored

theorem candidate_valid {inv : MigrationInventory} {transition : Transition} {next : JournalRecord}
    (made : record.candidate inv transition = .ok next) : ({ next with generation := gen } : JournalRecord).Valid := by
  cases candidate_shift record made with
  | fenceSource receipt checked planned => exact fence_source_valid record valid gen nonzero receipt checked planned
  | beginObject oid opId _ last attempts phase sourceOff targetOff named _ _ _ pending small =>
    exact begin_object_valid record valid gen nonzero phase sourceOff targetOff named pending small
  | markOutcomeUnknown oid _ _ copying intent =>
    exact replaced_valid valid nonzero copying intent (valid.entry record oid _ intent).2
  | confirmCommitted oid opId _ attempt copying digest _ active =>
    exact confirm_committed_valid record valid gen nonzero copying digest active
  | confirmNotCommitted oid _ _ copying unknown =>
    exact replaced_valid valid nonzero copying unknown (valid.entry record oid _ unknown).2
  | failObject oid reasonCode opId reason phase unsettled =>
    exact fail_object_valid record valid gen nonzero reason phase unsettled
  | verifyCopy copying sourceOff targetOff verified =>
    have planned : record.phase ≠ .planned := by simp [copying]
    exact ⟨valid.schema, valid.binding, ⟨nonzero, valid.counts.2⟩, Prod.ext sourceOff targetOff,
      .inr (valid.fenced.resolve_left planned), .inl (by simp), .inl (by simp),
      .inl (by simp), valid.digests, valid.entries, verified, valid.used⟩
  | activateTarget receipt anchorSha256 checked anchored ready sourceOff =>
    exact activate_target_valid record valid gen nonzero receipt anchorSha256 checked anchored ready sourceOff
  | fenceTarget receipt checked active => exact fence_target_valid record valid gen nonzero receipt checked active
  | rollback receipt anchorSha256 checked anchored phase targetOff _ _ resolved =>
    exact rollback_valid record valid gen nonzero receipt anchorSha256 checked anchored phase targetOff resolved

end JournalRecord

end HeptaBao.Migration
