import HeptaBao.Migration.Recovery

namespace HeptaBao.Migration

open Wire Std Durable Exec Action List ExtTreeMap
open Domain (nextGeneration next_generation_some)

theorem listed_ok (record : JournalRecord) (inv : MigrationInventory) :
    validateRecordAgainstInventory record inv = .ok () ↔ (byId inv.objects).size = record.objects.size ∧
      ∀ (oid : Str) state, record.objects[oid]? = some state → validateAgainst (byId inv.objects)
        (oid, state) = .ok () := by
  unfold validateRecordAgainstInventory
  constructor
  · intro passes
    obtain ⟨size, entries⟩ := unit_bind_ok passes
    refine ⟨(require_ok).mp size, fun oid state found => ?_⟩
    exact (each_ok _ _).mp entries (oid, state) (mem_toList_iff_getElem?_eq_some.mpr found)
  · rintro ⟨size, entries⟩
    rw [(require_ok).mpr size]
    refine (each_ok _ _).mpr ?_
    rintro ⟨oid, state⟩ listed
    exact entries oid state (mem_toList_iff_getElem?_eq_some.mp listed)

variable {oid : Str} {old state : MigrationObjectState}

theorem against_unverified {expected : ExtTreeMap Str MigrationObject}
    (held : validateAgainst expected (oid, old) = .ok ()) (unverified : state.isVerified = false) :
    validateAgainst expected (oid, state) = .ok () := by
  unfold validateAgainst at held ⊢
  cases found : expected[oid]? with
  | none => simp [found] at held
  | some =>
    cases state with
    | verified => cases unverified
    | pending | intentPersisted | outcomeUnknownAfterEntry | failedClosed => rfl

variable {next : JournalRecord}

section

variable (record : JournalRecord) (inv : MigrationInventory) (listed : validateRecordAgainstInventory record inv = .ok ())

include listed

theorem listed_same (next : JournalRecord) (same : next.objects = record.objects) :
    validateRecordAgainstInventory next inv = .ok () := by
  rw [listed_ok] at listed ⊢
  rw [same]
  exact listed

variable {record inv} in
theorem listed_replaced (found : record.objects[oid]? = some old)
    (replaced : next.objects = record.objects.insert oid state)
    (fits : validateAgainst (byId inv.objects) (oid, old) = .ok () → validateAgainst (byId inv.objects) (oid, state) =
      .ok ()) :
    validateRecordAgainstInventory next inv = .ok () := by
  rw [listed_ok] at listed ⊢
  obtain ⟨size, entries⟩ := listed
  have held : record.objects.contains oid = true := by
    rw [contains_eq_isSome_getElem?, found]
    rfl
  rw [replaced, size_insert, if_pos held]
  refine ⟨size, fun other kept stored => ?_⟩
  rw [lookup_insert] at stored
  split at stored
  · rename_i same
    subst same
    cases stored
    exact fits (entries oid old found)
  · exact entries other kept stored

end

theorem find_by_id (inv : MigrationInventory) (order : ascending (inv.objects.map MigrationObject.objectId) = true)
    {object : MigrationObject} (found : inv.find oid = .ok object) : (byId inv.objects)[oid]? = some object := by
  obtain ⟨member, named⟩ := find_ok found
  have distinct := ascending_pairwise _ order
  rw [pairwise_map] at distinct
  refine getElem?_ofList_of_mem (k := object.objectId) (by rw [named]; exact ReflCmp.compare_self) ?_
    (List.mem_map.mpr ⟨object, member, rfl⟩)
  rw [pairwise_map]
  refine distinct.imp ?_
  intro a b before same
  rw [before] at same
  cases same

variable {inv : MigrationInventory}

theorem candidate_listed (order : ascending (inv.objects.map MigrationObject.objectId) = true)
    {record : JournalRecord} (listed : validateRecordAgainstInventory record inv = .ok ()) {transition : Transition}
    (gen : UInt64) (made : record.candidate inv transition = .ok next) :
    validateRecordAgainstInventory { next with generation := gen } inv = .ok () := by
  have replaced := fun (oid : Str) old state (found : record.objects[oid]? = some old)
      (isNext : next.objects = record.objects.insert oid state) (unverified : state.isVerified = false) =>
    listed_replaced listed found isNext
      (fun held => against_unverified held unverified)
  cases JournalRecord.candidate_shift record made with
  | beginObject oid _ _ _ _ _ _ _ _ _ _ _ pending =>
    exact replaced oid _ _ pending rfl rfl
  | markOutcomeUnknown oid _ _ _ intent => exact replaced oid _ _ intent rfl rfl
  | confirmNotCommitted oid _ _ _ unknown => exact replaced oid _ _ unknown rfl rfl
  | failObject oid _ _ _ _ unsettled =>
    cases stored : record.objects[oid]? with
    | none => simp [JournalRecord.failedOperation, stored] at unsettled
    | some old => exact replaced oid old _ stored rfl rfl
  | confirmCommitted oid opId object attempt _ _ found active =>
    have fits : validateAgainst (byId inv.objects) (oid, .verified opId attempt object.expectedTargetSha256) = .ok () := by
      simp only [validateAgainst, find_by_id inv order found]
      exact (require_ok).mpr trivial
    rcases active with stored | stored
    · exact listed_replaced listed stored rfl fun _ => fits
    · exact listed_replaced listed stored rfl fun _ => fits
  | fenceSource | verifyCopy | activateTarget | fenceTarget | rollback => exact listed_same record inv listed _ rfl

variable {env : JournalEnv}

theorem arguments_order {binding : MigrationBinding} (arguments : validateArguments env binding inv = .ok ()) :
    ascending (inv.objects.map MigrationObject.objectId) = true := by
  obtain ⟨_, arguments⟩ := unit_bind_ok arguments
  obtain ⟨inventoryOk, _⟩ := unit_bind_ok arguments
  obtain ⟨_, inventoryOk⟩ := unit_bind_ok inventoryOk
  obtain ⟨order, _⟩ := unit_bind_ok inventoryOk
  exact (require_ok).mp order

variable {auth : JournalAuthentication}

theorem open_ok {binding : MigrationBinding} {folder : Folder} {journal : DurableMigrationJournal}
    (opened : openWithAuthentication env binding inv auth folder = .ok journal) :
    journal.inventory = inv ∧ journal.authentication = auth ∧ journal.record.Valid ∧
      validateRecordAgainstInventory journal.record inv = .ok () ∧
        ascending (inv.objects.map MigrationObject.objectId) = true := by
  unfold openWithAuthentication at opened
  obtain ⟨arguments, opened⟩ := unit_bind_ok opened
  obtain ⟨_, _, opened⟩ := bind_ok opened
  obtain ⟨_, _, opened⟩ := bind_ok opened
  obtain ⟨⟨record, _⟩, _, opened⟩ := bind_ok opened
  obtain ⟨_, opened⟩ := unit_bind_ok opened
  obtain ⟨validated, opened⟩ := unit_bind_ok opened
  obtain ⟨listed, opened⟩ := unit_bind_ok opened
  cases opened
  exact ⟨rfl, rfl, (JournalRecord.validate_ok record).mp validated, listed, arguments_order arguments⟩

section

variable (env : JournalEnv)

theorem keep_current_plain (disk : Disk) :
    Ends (keepCurrent {}) disk fun res reached => res = .ok () ∧ reached.folder.temporary = disk.folder.temporary := by
  unfold keepCurrent
  cases current : disk.folder.current with
  | none =>
    refine ends_bind (fun res reached => res = .ok false ∧ reached = disk) ⟨by simp [present, query, current], rfl⟩
      ?_ ?_
    · rintro _ _ ⟨wrong, _⟩
      cases wrong
    · rintro _ _ ⟨same, rfl⟩
      cases same
      exact ⟨rfl, rfl⟩
  | some old =>
    refine ends_bind (fun res reached => res = .ok true ∧ reached = disk) ⟨by simp [present, query, current], rfl⟩
      ?_ ?_
    · rintro _ _ ⟨wrong, _⟩
      cases wrong
    rintro _ seen ⟨same, rfl⟩
    cases same
    refine ends_bind (fun res reached => res = .ok () ∧ reached.folder.current = some old ∧ reached.folder.temporary = seen.folder.temporary) ?_ ?_ ?_
    · unfold removePrevious
      cases prev : seen.folder.previous with
      | none =>
        refine ends_bind (fun res reached => res = .ok false ∧ reached = seen)
          ⟨by simp [present, query, prev], rfl⟩ ?_ ?_
        · rintro _ _ ⟨wrong, _⟩
          cases wrong
        · rintro _ _ ⟨same, rfl⟩
          cases same
          exact ⟨rfl, current, rfl⟩
      | some =>
        refine ends_bind (fun res reached => res = .ok true ∧ reached = seen)
          ⟨by simp [present, query, prev], rfl⟩ ?_ ?_
        · rintro _ _ ⟨wrong, _⟩
          cases wrong
        · rintro _ _ ⟨same, rfl⟩
          cases same
          exact ⟨rfl, current, rfl⟩
    · rintro _ _ ⟨wrong, _⟩
      cases wrong
    · rintro _ cleared ⟨_, there, staged⟩
      refine ends_bind (fun res reached => res = .ok () ∧ reached.folder.temporary = seen.folder.temporary) ?_ ?_ ?_
      · unfold rename
        apply ends_read
        simp only [there]
        exact ⟨rfl, staged⟩
      · rintro _ _ ⟨wrong, _⟩
        cases wrong
      · rintro _ moved ⟨_, held⟩
        exact ⟨rfl, held⟩

theorem persist_plain_ends (lawful : env.Lawful) {disk : Disk}
    (free : disk.folder.temporary.contains next.generation = false)
    (sized : (auth.encode env next).length ≤ maxJournalBytes) :
    Ends (persistReplace env {} next auth) disk fun res reached => res = .ok () ∧
      ∀ gen : UInt64, reached.folder.temporary[gen]? = disk.folder.temporary[gen]? := by
  unfold persistReplace
  change Ends (writeNew {} next.generation (auth.encode env next) >>= _) disk _
  have written : Ends (writeNew {} next.generation (auth.encode env next)) disk fun res reached =>
      res = .ok () ∧ reached.folder.temporary = (disk.folder.temporary.insert next.generation []).insert next.generation (auth.encode env next) := by
    unfold writeNew
    refine ends_lift _ () _ _ _ ?_ ?_
    · rw [(require_ok).mpr ⟨encode_filled env lawful auth next, sized⟩]
      rfl
    refine ends_bind (fun res reached => res = .ok () ∧ reached.folder.temporary = disk.folder.temporary.insert next.generation []) ?_ ?_ ?_
    · unfold secureCreateNew
      apply ends_read
      rw [if_neg (by rw [free]; decide)]
      exact ⟨rfl, rfl⟩
    · rintro _ _ ⟨wrong, _⟩
      cases wrong
    · rintro _ opened ⟨_, created⟩
      exact ⟨rfl, congrArg (fun files => files.insert next.generation (auth.encode env next)) created⟩
  refine ends_bind _ written ?_ ?_
  · rintro _ _ ⟨wrong, _⟩
    cases wrong
  rintro _ filled ⟨_, staged⟩
  refine ends_bind _ (keep_current_plain filled) ?_ ?_
  · rintro _ _ ⟨wrong, _⟩
    cases wrong
  rintro _ kept ⟨_, same⟩
  have ready : kept.folder.temporary[next.generation]? = some (auth.encode env next) := by
    rw [same, staged]
    exact (lookup_insert _ _ _ _).trans (if_pos rfl)
  have cleared : ∀ gen : UInt64, (kept.folder.temporary.erase next.generation)[gen]? = disk.folder.temporary[gen]? := by
    intro gen
    rw [getElem?_erase, same, staged, lookup_insert, lookup_insert]
    by_cases isNext : next.generation = gen
    · subst isNext
      have absent : disk.folder.temporary[next.generation]? = none := by
        rw [contains_eq_isSome_getElem?] at free
        exact Option.not_isSome_iff_eq_none.mp (by rw [free]; decide)
      rw [absent, if_pos ReflCmp.compare_self]
    · rw [if_neg (fun equal => isNext (LawfulEqCmp.compare_eq_iff_eq.mp equal)), if_neg isNext, if_neg isNext]
  have moved : Ends (rename none (fun folder => folder.temporary[next.generation]?) (published next.generation)) kept
      fun res reached => res = .ok () ∧ ∀ gen : UInt64, reached.folder.temporary[gen]? = disk.folder.temporary[gen]? := by
    unfold rename
    apply ends_read
    simp only [ready]
    exact ⟨rfl, cleared⟩
  unfold publishTemporary
  refine ends_bind _ (ends_attempt moved) ?_ ?_
  · rintro _ _ ⟨_, wrong, _⟩
    cases wrong
  · rintro res reached ⟨_, same, done, rest⟩
    cases same
    cases done
    exact ⟨rfl, rest⟩

theorem persist_replace_plain (lawful : env.Lawful) (auth : JournalAuthentication) (next : JournalRecord)
    (disk : Disk) :
    (persistReplace env {} next auth disk).1 = .ok () ↔
      disk.folder.temporary.contains next.generation = false ∧ (auth.encode env next).length ≤ maxJournalBytes := by
  constructor
  · intro done
    by_cases large : maxJournalBytes < (auth.encode env next).length
    · obtain ⟨_, flaw, refused⟩ := persist_oversized env auth {} next disk large
      rw [refused] at done
      cases done
    · refine ⟨?_, Nat.not_lt.mp large⟩
      by_contra there
      rw [Bool.not_eq_false] at there
      have refused : Ends (persistReplace env {} next auth) disk fun res _ => ∃ flaw, res = .error flaw := by
        unfold persistReplace
        change Ends (writeNew {} next.generation (auth.encode env next) >>= _) disk _
        refine ends_bind (fun res _ => ∃ flaw, res = .error flaw) ?_ (fun flaw _ _ => ⟨flaw, rfl⟩) ?_
        · unfold writeNew
          refine ends_lift_cases (fun flaw _ => ⟨flaw, rfl⟩) fun _ _ => ?_
          refine ends_bind (fun res _ => ∃ flaw, res = .error flaw) ?_ (fun flaw _ _ => ⟨flaw, rfl⟩) ?_
          · unfold secureCreateNew
            apply ends_read
            rw [if_pos there]
            exact ⟨_, rfl⟩
          · rintro _ _ ⟨_, wrong⟩
            cases wrong
        · rintro _ _ ⟨_, wrong⟩
          cases wrong
      obtain ⟨_, wrong⟩ := refused
      rw [wrong] at done
      cases done
  · rintro ⟨free, sized⟩
    exact (persist_plain_ends env lawful free sized).1

/-- After any open a transition succeeds without faults exactly when no temporary of the
next generation is there, the generation can grow and the record fits. -/
theorem journal_writable_iff (lawful : env.Lawful) (binding : MigrationBinding) (inv : MigrationInventory)
    (auth : JournalAuthentication) (disk : Disk) (journal : DurableMigrationJournal)
    (opened : openWithAuthentication env binding inv auth disk.folder = .ok journal) (transition : Transition)
    (candidate : JournalRecord) (permitted : journal.record.candidate inv transition = .ok candidate) :
    (∃ next, (journal.advance env {} transition disk).1 = .ok next) ↔ ∃ gen,
      nextGeneration journal.record.generation = some gen ∧ disk.folder.temporary.contains gen = false ∧
        (auth.encode env { candidate with generation := gen }).length ≤ maxJournalBytes := by
  obtain ⟨sameInventory, sameAuthentication, valid, listed, order⟩ := open_ok opened
  have advanced : journal.advance env {} transition disk = journal.commit env {} candidate disk := by
    unfold DurableMigrationJournal.advance
    rw [bind_apply, sameInventory]
    simp only [checked, lift, permitted, Except.mapError]
  rw [advanced]
  unfold DurableMigrationJournal.commit
  cases raised : nextGeneration journal.record.generation with
  | none => simp [fail]
  | some gen =>
    have nonzero : gen ≠ 0 := by
      rintro rfl
      have value := next_generation_some _ _ raised
      simp at value
    have nextValid := (JournalRecord.validate_ok _).mpr
      (JournalRecord.candidate_valid journal.record valid gen nonzero permitted)
    have nextListed := candidate_listed order listed gen permitted
    simp only [nextValid, sameInventory, nextListed, sameAuthentication]
    have stored := persist_replace_plain env lawful auth { candidate with generation := gen } disk
    simp only [Option.some.injEq, exists_eq_left']
    rw [← stored]
    rw [bind_apply]
    simp only [checked, lift, Except.mapError]
    rw [bind_apply]
    simp only [lift]
    rw [bind_apply]
    cases (persistReplace env {} { candidate with generation := gen } auth disk) with
    | mk res =>
      cases res with
      | error => simp
      | ok =>
        simp only [iff_true]
        exact ⟨_, rfl⟩

end

-- A crash behind the last rename, where the temporary is no longer there.
def publishedFence : List Event := [.transition (fenceWith 101) { syncPublished := some (.dies 0) }, .lose 0, .reopen, .stop]

theorem checked_any {α : Type} {outcome : Checked α} {test : α → Bool} (passed : outcome.toOption.any test = true) :
    ∃ value, outcome = .ok value ∧ test value = true := by
  cases outcome with
  | error => cases passed
  | ok value => exact ⟨value, rfl, passed⟩

theorem journal_writable_interrupted : ∃ journal, reopened (worldAfter publishedFence) = .ok journal ∧
    ∃ next, (journal.advance journalEnv {} (.beginObject (str "x") (str "o")) (worldAfter publishedFence).disk).1 =
      .ok next := by
  have ready : (reopened (worldAfter publishedFence)).toOption.any (fun journal =>
      (journal.record.candidate sampleInventory (.beginObject (str "x") (str "o"))).toOption.any fun candidate =>
        nextGeneration journal.record.generation = some 3 ∧ (worldAfter publishedFence).disk.folder.temporary.contains 3 = false ∧
          (JournalAuthentication.encode journalEnv { candidate with generation := 3 } .legacyChecksum).length ≤ maxJournalBytes) = true := by
    decide +kernel
  obtain ⟨journal, opened, permits⟩ := checked_any ready
  obtain ⟨candidate, permitted, room⟩ := checked_any permits
  exact ⟨journal, opened, (journal_writable_iff journalEnv journal_env_lawful sampleBinding sampleInventory
    .legacyChecksum _ journal opened _ candidate permitted).mpr ⟨3, of_decide_eq_true room⟩⟩

-- A crash leaves the temporary of generation two, which blocks every transition.
theorem leftover_temporary_blocks : (createWithAuthentication journalEnv sampleBinding sampleInventory
    .legacyChecksum).isOk = true ∧
    (reopened (worldAfter interruptedFence)).isOk = true ∧ (worldAfter (interruptedFence ++ [.reopen])).live.all
      (fun journal =>
      (journal.record.candidate sampleInventory (fenceWith 101)).isOk &&
        !(journal.advance journalEnv {} (fenceWith 101) (worldAfter interruptedFence).disk).1.isOk) = true := by
  refine ⟨sample_creates, ?_, ?_⟩
  · decide +kernel
  · decide +kernel

end HeptaBao.Migration
