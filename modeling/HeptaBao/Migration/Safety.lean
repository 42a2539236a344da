import HeptaBao.Migration.Progress
import HeptaBao.Migration.Protocol

namespace HeptaBao.Migration

open Wire Std Durable Exec List ExtTreeMap
open Domain (nextGeneration next_generation_some)
open JournalRecord

-- An attempt was made on the object and not found to have missed.
def MigrationObjectState.entered : MigrationObjectState → Bool
  | .intentPersisted _ _ | .outcomeUnknownAfterEntry _ _ | .verified _ _ _ => true
  | _ => false

-- What a record says about its inventory, beyond what is checked when it is read.
structure Sound (inv : MigrationInventory) (record : JournalRecord) : Prop where
  covers : ∀ object ∈ inv.objects, ∃ state, record.objects[object.objectId]? = some state
  ordered : ∀ object ∈ inv.objects, ∀ state, record.objects[object.objectId]? = some state → state.entered = true →
    ∀ dependency ∈ object.dependencies, record.Verified dependency
  expected : ∀ object ∈ inv.objects, ∀ opId attempt targetSha256,
    record.objects[object.objectId]? = some (.verified opId attempt targetSha256) → targetSha256 = object.expectedTargetSha256

section

variable {inv : MigrationInventory} (order : ascending (inv.objects.map MigrationObject.objectId) = true)

include order

theorem find_listed {object : MigrationObject} (listed : object ∈ inv.objects) {other : MigrationObject}
    (found : inv.find object.objectId = .ok other) : other = object := by
  obtain ⟨otherListed, same⟩ := find_ok found
  exact objects_distinct order otherListed listed same

theorem passage_sound (passage : Passage) (lawful : passage.Lawful inv) (sound : Sound inv passage.before) :
    Sound inv passage.after := by
  have verified := stays_verified inv passage lawful
  obtain ⟨_, _, shift, _⟩ := lawful.shift
  refine ⟨fun object listed => ?_, fun object listed state stored entered => ?_, fun object listed opId attempt targetSha256 stored => ?_⟩
  · obtain ⟨_, known⟩ := sound.covers object listed
    rcases passage_object lawful object.objectId with ⟨absent, _⟩ | ⟨before, after, _, is, _⟩
    · rw [absent] at known
      cases known
    · exact ⟨after, is⟩
  · rcases passage_object lawful object.objectId with ⟨_, absent⟩ | ⟨before, after, was, is, change⟩
    · rw [absent] at stored
      cases stored
    rw [is] at stored
    cases stored
    have older : before.entered = true → ∀ dependency ∈ object.dependencies, passage.after.Verified dependency :=
      fun was' dependency member => verified dependency (sound.ordered object listed before was was' dependency member)
    rcases change with same | step
    · exact older (same ▸ entered)
    · generalize same : passage.transition = transition at step shift
      cases step with
      | begun _ last attempts =>
        -- begin_object looked at exactly this object's dependencies.
        cases shift with
        | beginObject _ _ other _ _ _ _ _ _ found _ ready =>
          rw [find_listed order listed found] at ready
          exact fun dependency member => verified dependency (ready dependency member)
      | marked | committed | found => exact older rfl
      | missed | failed => cases entered
  · rcases passage_object lawful object.objectId with ⟨_, absent⟩ | ⟨before, after, was, is, change⟩
    · rw [absent] at stored
      cases stored
    rw [is] at stored
    cases stored
    rcases change with same | step
    · exact sound.expected object listed opId attempt targetSha256 (same ▸ was)
    · generalize same : passage.transition = transition at step shift
      have digest : ∀ op, transition = .confirmCommitted object.objectId op targetSha256 → targetSha256 = object.expectedTargetSha256 := by
        rintro op rfl
        cases shift with
        | confirmCommitted _ _ other _ _ _ found => rw [find_listed order listed found]
      cases step with
      | committed | found => exact digest _ rfl

theorem chained_sound {initial : JournalRecord} (start : Sound inv initial) {passages : Passages}
    (chained : Passages.Chained inv initial passages) :
    Sound inv (Passages.current initial passages) ∧ ∀ passage ∈ passages, Sound inv passage.before := by
  induction passages with
  | nil => exact ⟨start, fun _ wrong => nomatch wrong⟩
  | cons passage _ ih =>
    obtain ⟨lawful, before, rest⟩ := chained
    obtain ⟨sound, each⟩ := ih rest
    refine ⟨passage_sound order passage lawful (before ▸ sound), fun other listed => ?_⟩
    rcases mem_cons.mp listed with rfl | older
    · exact before ▸ sound
    · exact each other older

omit order in
theorem verified_below {record : JournalRecord} (sound : Sound inv record) {oid dependency : Str}
    (ready : ∀ direct, DependsOn inv oid direct → record.Verified direct)
    (below : Relation.TransGen (DependsOn inv) oid dependency) : record.Verified dependency := by
  induction below with
  | single direct => exact ready _ direct
  | @tail middle last _ depends verified =>
    obtain ⟨object, listed, rfl, member⟩ := depends
    obtain ⟨_, _, _, stored⟩ := (verified_iff _ _).mp verified
    exact sound.ordered object listed _ stored rfl last member

theorem begun_ready (passage : Passage) (lawful : passage.Lawful inv) {oid opId : Str}
    (begins : passage.transition = .beginObject oid opId) (direct : Str) (depends : DependsOn inv oid direct) :
    passage.before.Verified direct := by
  obtain ⟨_, _, shift, _⟩ := lawful.shift
  obtain ⟨object, listed, rfl, member⟩ := depends
  rw [begins] at shift
  cases shift with
  | beginObject _ _ other _ _ _ _ _ _ found _ ready =>
    rw [find_listed order listed found] at ready
    exact ready direct member

end

section

variable {inv : MigrationInventory}

theorem under_way_kept (passage : Passage) (lawful : passage.Lawful inv) (goesOn : passage.transition.rollsBack = false)
    (underWay : passage.before.phase ≠ .planned ∧ passage.before.phase ≠ .rolledBack) :
    passage.after.phase ≠ .planned ∧ passage.after.phase ≠ .rolledBack := by
  obtain ⟨_, _, shift, written⟩ := lawful.shift
  rw [written]
  generalize passage.transition = transition at shift goesOn
  cases shift with
  | rollback => cases goesOn
  | markOutcomeUnknown | confirmCommitted | confirmNotCommitted => exact underWay
  | fenceSource | beginObject | failObject | verifyCopy | activateTarget | fenceTarget =>
    exact ⟨fun wrong => (nomatch wrong), nofun⟩

theorem source_off (record : JournalRecord) (valid : record.Valid)
    (underWay : record.phase ≠ .planned ∧ record.phase ≠ .rolledBack) :
    record.sourceWriter = false := by
  have writers := congrArg Prod.fst valid.writers
  cases phase : record.phase with
  | planned => exact absurd phase underWay.1
  | rolledBack => exact absurd phase underWay.2
  | sourceFenced | copying | cutoverReady | targetActive | targetFenced | failedClosed =>
    rw [phase] at writers
    exact writers

theorem writer_apart (record : JournalRecord) (valid : record.Valid) :
    ¬(record.sourceWriter = true ∧ record.targetWriter = true) := by
  rintro ⟨source, target⟩
  have writers := valid.writers
  rw [source, target] at writers
  cases phase : record.phase <;> simp [phase, writersOf] at writers

theorem target_on (record : JournalRecord) (valid : record.Valid) (on : record.targetWriter = true) :
    record.phase = .targetActive := by
  have writers := congrArg Prod.snd valid.writers
  rw [on] at writers
  cases phase : record.phase with
  | targetActive => rfl
  | planned | sourceFenced | copying | cutoverReady | targetFenced | rolledBack | failedClosed =>
    rw [phase] at writers
    cases writers

theorem begins_copying (passage : Passage) (lawful : passage.Lawful inv) (begins : passage.transition.begins = true) :
    passage.before.sourceWriter = false ∧ passage.after.phase = .copying := by
  obtain ⟨_, _, shift, written⟩ := lawful.shift
  rw [written]
  generalize passage.transition = transition at shift begins
  cases shift with
  | beginObject _ _ _ _ _ _ sourceOff =>
    exact ⟨sourceOff, rfl⟩
  | fenceSource | markOutcomeUnknown | confirmCommitted | confirmNotCommitted | failObject | verifyCopy | activateTarget | fenceTarget
  | rollback => cases begins

theorem issued_used {initial : JournalRecord} {passages : Passages} (chained : Passages.Chained inv initial passages) :
    (passages.filterMap fun passage => passage.transition.issued).Nodup ∧
      ∀ opId ∈ passages.filterMap (fun passage => passage.transition.issued),
        opId ∈ (Passages.current initial passages).usedOperationIds := by
  induction passages with
  | nil => exact ⟨nodup_nil, fun _ wrong => nomatch wrong⟩
  | cons passage earlier ih =>
    obtain ⟨lawful, before, rest⟩ := chained
    obtain ⟨once, used⟩ := ih rest
    rw [← before] at used
    obtain ⟨candidate, gen, shift, written⟩ := lawful.shift
    have current : Passages.current initial (passage :: earlier) = { candidate with generation := gen } := written
    rw [current]
    generalize same : passage.transition = transition at shift
    simp only [filterMap_cons, same]
    cases shift with
    | beginObject _ opId _ _ _ _ _ _ _ _ fresh =>
      refine ⟨nodup_cons.mpr ⟨fun member => fresh (used opId member), once⟩, fun other listed => ?_⟩
      rcases mem_cons.mp listed with rfl | older
      · exact ExtTreeSet.mem_insert.mpr (.inl ReflCmp.compare_self)
      · exact ExtTreeSet.mem_insert.mpr (.inr (used other older))
    | fenceSource | markOutcomeUnknown | confirmCommitted | confirmNotCommitted | failObject | verifyCopy | activateTarget | fenceTarget
    | rollback => exact ⟨once, used⟩

-- How the phase remembers what the target writer went through.
structure Tracked (initial : JournalRecord) (passages : Passages) : Prop where
  ever : (∃ passage ∈ passages, passage.after.targetWriter = true) → (Passages.current initial passages).phase =
    .targetActive ∨
    (Passages.current initial passages).phase = .targetFenced ∨ (Passages.current initial passages).phase = .rolledBack
  active : (Passages.current initial passages).phase = .targetActive → ∃ newer activating older activation anchorSha256,
    passages = newer ++ activating :: older ∧ activating.transition = .activateTarget activation anchorSha256 ∧
      (Passages.current initial passages).targetActivationGeneration = some activation.generation
  fenced : (Passages.current initial passages).phase = .targetFenced →
    ∃ newer fencing middle activating older fence activation anchorSha256,
      passages = newer ++ fencing :: (middle ++ activating :: older) ∧ fencing.transition = .fenceTarget fence ∧
        activating.transition = .activateTarget activation anchorSha256 ∧ activation.generation < fence.generation

theorem chained_tracked (initial : JournalRecord) (planned : initial.phase = .planned) (passages : Passages)
    (chained : Passages.Chained inv initial passages) : Tracked initial passages := by
  induction passages with
  | nil =>
    refine ⟨fun ⟨_, wrong, _⟩ => (nomatch wrong), fun wrong => ?_, fun wrong => ?_⟩
    · exact absurd (planned.symm.trans wrong) (by decide)
    · exact absurd (planned.symm.trans wrong) (by decide)
  | cons passage earlier ih =>
    obtain ⟨lawful, before, rest⟩ := chained
    have tracked := ih rest
    have valid := lawful.valid
    obtain ⟨_, _, shift, written⟩ := lawful.shift
    -- A transition before the cutover leaves no trace of the target writer.
    have earlierOn : (∃ other ∈ passage :: earlier, other.after.targetWriter = true) → passage.after.targetWriter = false →
        passage.before.phase = .targetActive ∨ passage.before.phase = .targetFenced ∨ passage.before.phase = .rolledBack := by
      rintro ⟨other, listed, on⟩ off
      rcases mem_cons.mp listed with rfl | older
      · rw [on] at off
        cases off
      · rw [before]
        exact tracked.ever ⟨other, older, on⟩
    have active := tracked.active
    rw [← before] at active
    have current : Passages.current initial (passage :: earlier) = passage.after := rfl
    have phases : (∃ other ∈ passage :: earlier, other.after.targetWriter = true) → passage.after.phase = .targetActive ∨
        passage.after.phase = .targetFenced ∨ passage.after.phase = .rolledBack := by
      intro ever
      cases on : passage.after.targetWriter with
      | true => exact .inl (target_on passage.after valid on)
      | false =>
        have phase := earlierOn ever on
        rw [written]
        generalize passage.transition = transition at shift
        cases shift with
        | fenceSource _ _ planned => simp [planned] at phase
        | beginObject _ _ _ _ _ started => rcases started with same | same <;> simp [same] at phase
        | markOutcomeUnknown _ _ _ copying | confirmCommitted _ _ _ _ copying | confirmNotCommitted _ _ _ copying
        | verifyCopy copying => simp [copying] at phase
        | failObject _ _ _ _ started => rcases started with same | same | same <;> simp [same] at phase
        | activateTarget => exact .inl rfl
        | fenceTarget => exact .inr (.inl rfl)
        | rollback => exact .inr (.inr rfl)
    refine ⟨phases, fun phase => ?_, fun phase => ?_⟩
    · rw [current, written] at phase ⊢
      generalize same : passage.transition = transition at shift
      cases shift with
      | activateTarget receipt anchorSha256 => exact ⟨[], passage, earlier, receipt, anchorSha256, rfl, same, rfl⟩
      | markOutcomeUnknown _ _ _ copying | confirmCommitted _ _ _ _ copying | confirmNotCommitted _ _ _ copying =>
        exact absurd (copying.symm.trans phase) (by decide)
      | fenceSource | beginObject | failObject | verifyCopy | fenceTarget | rollback => cases phase
    · rw [current, written] at phase
      generalize same : passage.transition = transition at shift
      cases shift with
      | fenceTarget receipt _ isActive _ newer =>
        obtain ⟨middle, activating, older, activation, anchorSha256, split, isActivation, stored⟩ := active isActive
        rw [stored] at newer
        exact ⟨[], passage, middle, activating, older, receipt, activation, anchorSha256, by rw [split]; rfl, same, isActivation,
          of_decide_eq_true newer⟩
      | markOutcomeUnknown _ _ _ copying | confirmCommitted _ _ _ _ copying | confirmNotCommitted _ _ _ copying =>
        exact absurd (copying.symm.trans phase) (by decide)
      | fenceSource | beginObject | failObject | verifyCopy | activateTarget | rollback => cases phase

theorem reenabling (passage : Passage) (lawful : passage.Lawful inv) (off : passage.before.sourceWriter = false)
    (on : passage.after.sourceWriter = true) : passage.before.states.all (fun state => !state.isUnresolved) = true ∧
      (passage.before.phase = .sourceFenced ∨ passage.before.phase = .copying ∨ passage.before.phase = .cutoverReady ∨
        passage.before.phase = .targetFenced) := by
  obtain ⟨_, _, shift, written⟩ := lawful.shift
  rw [written] at on
  generalize passage.transition = transition at shift
  cases shift with
  | rollback _ _ _ _ phase _ _ _ resolved => exact ⟨resolved, phase⟩
  | fenceSource | failObject => cases on
  | beginObject | markOutcomeUnknown | confirmCommitted | confirmNotCommitted | verifyCopy | activateTarget | fenceTarget =>
    exact absurd (off.symm.trans on) (by decide)

theorem chained_safe (order : ascending (inv.objects.map MigrationObject.objectId) = true) {initial : JournalRecord}
    (valid : initial.Valid) (planned : initial.phase = .planned) (start : Sound inv initial) {passages : Passages}
    (chained : Passages.Chained inv initial passages) : passages.Safe inv initial := by
  have writtenValid : ∀ record ∈ initial :: passages.map Passage.after, record.Valid := by
    intro record listed
    rcases mem_cons.mp listed with rfl | older
    · exact valid
    · obtain ⟨passage, member, rfl⟩ := List.mem_map.mp older
      exact (chained_lawful chained member).valid
  refine ⟨fun record listed => writer_apart record (writtenValid record listed), ?_, (issued_used chained).1, ?_, ?_,
    ?_, ?_, ?_, ?_, fun record listed => (validate_ok record).mpr (writtenValid record listed)⟩
  · rintro later passage earlier rfl begins goesOn
    obtain ⟨lawful, _⟩ := chained_at chained
    obtain ⟨off, copying⟩ := begins_copying passage lawful begins
    have started : passage.after.phase ≠ .planned ∧ passage.after.phase ≠ .rolledBack := by simp [copying]
    have each := (passages_carry (fun record => record.phase ≠ .planned ∧ record.phase ≠ .rolledBack)
      (fun transition => transition.rollsBack = false) under_way_kept chained goesOn started).2
    refine ⟨off, fun other listed => ?_⟩
    rcases mem_append.mp listed with newer | here
    · exact source_off other.after (chained_lawful chained (mem_append_left _ newer)).valid (each other newer)
    · rw [mem_singleton.mp here]
      exact source_off passage.after lawful.valid started
  · intro oid first second firstOpen secondOpen
    have runs : ∀ opId, passages.Unresolved oid opId → (Passages.current initial passages).Running oid opId := by
      rintro opId ⟨later, passage, earlier, rfl, begins, leaves⟩
      obtain ⟨lawful, _⟩ := chained_at chained
      exact (passages_carry (fun record => record.Running oid opId)
        (fun transition => transition.resolves oid opId = false) (running_kept oid opId inv) chained leaves
        (begun_running lawful begins).2).1
    obtain ⟨_, one | one⟩ := runs first firstOpen <;> obtain ⟨_, two | two⟩ := runs second secondOpen <;> rw [one] at two <;> cases two <;> rfl
  · rintro later second between first earlier oid opId previousId rfl beginsAgain begins
    by_contra missing
    obtain ⟨lawful, before, rest⟩ := chained_earlier chained
    obtain ⟨firstLawful, _⟩ := chained_at rest
    have occupied := (passages_carry (fun record => record.Occupied oid previousId)
      (fun transition => transition ≠ .confirmNotCommitted oid previousId) (occupied_kept oid previousId inv) rest
      (fun other listed same => missing ⟨other, listed, same⟩) (.inl (begun_running firstLawful begins).2)).1
    obtain ⟨⟨_, _, pending⟩, _⟩ := begun_running lawful beginsAgain
    rw [before] at pending
    rcases occupied with ⟨attempt, wrong⟩ | ⟨state, stored, wrong⟩
    · rw [pending] at wrong
      rcases wrong with wrong | wrong <;> cases wrong
    · rw [pending] at stored
      cases stored
      rcases wrong with wrong | wrong <;> cases wrong
  · intro passage listed oid opId begins dependency below
    have sound := (chained_sound order start chained).2 passage listed
    exact verified_below sound
      (begun_ready order passage (chained_lawful chained listed) begins) below
  · rintro later passage earlier rfl oid opId attempt targetSha256 stored
    exact (passages_carry (fun record => record.objects[oid]? = some (.verified opId attempt targetSha256)) (fun _ => True)
      (fun _ lawful _ kept => verified_kept lawful kept) chained (fun _ _ => trivial) stored).2
  · intro record listed on object member
    have recordValid := writtenValid record listed
    have sound : Sound inv record := by
      rcases mem_cons.mp listed with rfl | older
      · exact start
      · obtain ⟨passage, passed, rfl⟩ := List.mem_map.mp older
        exact passage_sound order passage (chained_lawful chained passed)
          ((chained_sound order start chained).2 passage passed)
    have verified := recordValid.phase
    rw [phaseObjects, target_on record recordValid on] at verified
    obtain ⟨state, stored⟩ := sound.covers object member
    have isVerified := (states_all record _).mp verified object.objectId state stored
    obtain ⟨opId, attempt, targetSha256, found⟩ := (verified_iff record object.objectId).mp
      (by rw [JournalRecord.Verified, stored]; exact isVerified)
    rw [sound.expected object member opId attempt targetSha256 found] at found
    exact ⟨opId, attempt, found⟩
  · rintro later passage earlier rfl off on
    obtain ⟨lawful, before, rest⟩ := chained_earlier chained
    obtain ⟨resolved, phase⟩ := reenabling passage lawful off on
    refine ⟨resolved, fun ever => ?_⟩
    have tracked := chained_tracked initial planned earlier rest
    rw [before] at phase
    rcases tracked.ever ever with wrong | fenced | wrong
    · simp [wrong] at phase
    · exact tracked.fenced fenced
    · simp [wrong] at phase

end

-- Every transition that returned Ok, with the records around it.
def Passages.follow (env : JournalEnv) (world : World) (event : Event) (passages : Passages) : Passages :=
  match event, world.live with
  | .transition transition faults, some journal =>
    match (journal.advance env faults transition world.disk).1 with
    | .ok next => ⟨journal.record, transition, next.record⟩ :: passages
    | .error _ => passages
  | _, _ => passages

def Quiet : Event → Prop
  | .transition _ faults => faults = {}
  | _ => True

section

variable (env : JournalEnv) (binding : MigrationBinding) (inv : MigrationInventory) (auth : JournalAuthentication)

structure Settled (folder : Folder) (record : JournalRecord) : Prop where
  selects : Selects env binding inv auth folder record
  clean : ∀ gen : UInt64, folder.temporary[gen]? = none

inductive Advances (journal : DurableMigrationJournal) (transition : Transition) (start : Disk) :
    Except Stop DurableMigrationJournal → Disk → Prop
  | refused (flaw : Stop) : Advances journal transition start (.error flaw) start
  | done (next : JournalRecord) (reached : Disk) (lawful : (⟨journal.record, transition, next⟩ : Passage).Lawful inv)
      (proper : Proper env binding inv auth next)
      (settled : Settled env binding inv auth reached.folder next) (synced : reached.older = []) :
      Advances journal transition start (.ok { journal with record := next, recoveredFromPrevious := false }) reached

theorem advance_plain (lawful : env.Lawful) (journal : DurableMigrationJournal) (transition : Transition) (start : Disk)
    (sameInventory : journal.inventory = inv) (sameAuthentication : journal.authentication = auth)
    (proper : Proper env binding inv auth journal.record)
    (settled : Settled env binding inv auth start.folder journal.record) :
    Action.Ends (journal.advance env {} transition) start (Advances env binding inv auth journal transition start) := by
  refine advance_hands_over sameInventory sameAuthentication proper (fun flaw => .refused flaw)
    fun candidate gen made _ later nextProper => ?_
  have free : start.folder.temporary.contains gen = false := by
    rw [contains_eq_isSome_getElem?, settled.clean gen]
    rfl
  have plain := persist_plain_ends env lawful free nextProper.sized
  have ends := persist_replace_ends env binding inv auth journal.record { candidate with generation := gen } start {}
    (fun _ wrong => nomatch wrong) proper later settled.selects
  obtain ⟨inPlace, synced, _⟩ := ends.2 plain.1
  unfold Action.Ends
  rw [plain.1]
  exact .done _ _ ⟨⟨candidate, gen, candidate_shift _ made, rfl⟩, nextProper.valid⟩ nextProper
    ⟨inPlace, fun other => (plain.2 other).trans (settled.clean other)⟩ synced

-- The directory and the live journal stand at the last committed record.
structure Followed (initial : JournalRecord) (world : World) (passages : Passages) : Prop where
  chained : Passages.Chained inv initial passages
  proper : Proper env binding inv auth (Passages.current initial passages)
  folders : ∀ folder ∈ world.disk.folder :: world.disk.older, Settled env binding inv auth folder
    (Passages.current initial passages)
  live : ∀ journal, world.live = some journal →
    journal.inventory = inv ∧ journal.authentication = auth ∧ journal.record = Passages.current initial passages

theorem step_followed (lawful : env.Lawful) (arguments : validateArguments env binding inv = .ok ())
    {initial : JournalRecord}
    {world : World} {event : Event} {passages : Passages} (quiet : Quiet event)
    (followed : Followed env binding inv auth initial world passages) :
    Followed env binding inv auth initial (step env binding inv auth world event)
    (passages.follow env world event) := by
  cases event with
  | stop => exact ⟨followed.chained, followed.proper, followed.folders, by rintro _ ⟨⟩⟩
  | lose back =>
    refine ⟨followed.chained, followed.proper, fun folder listed => ?_, by rintro _ ⟨⟩⟩
    exact followed.folders folder (lost_listed listed)
  | reopen =>
    cases alive : world.live with
    | some =>
      simp only [step, alive]
      exact followed
    | none =>
      have here := followed.folders world.disk.folder mem_cons_self
      obtain ⟨_, opened⟩ := selects_opens lawful arguments followed.proper
        here.selects
      simp only [step, alive, opened]
      refine ⟨followed.chained, followed.proper, followed.folders, fun journal found => ?_⟩
      cases found
      exact ⟨rfl, rfl, rfl⟩
  | transition transition =>
    cases quiet
    cases alive : world.live with
    | none =>
      simp only [step, Passages.follow, alive]
      exact followed
    | some journal =>
      obtain ⟨sameInventory, sameAuthentication, sameRecord⟩ := followed.live journal alive
      have ends := advance_plain env binding inv auth lawful journal transition world.disk sameInventory sameAuthentication
        (sameRecord ▸ followed.proper) (sameRecord ▸ followed.folders world.disk.folder mem_cons_self)
      unfold Action.Ends at ends
      simp only [step, Passages.follow, alive]
      generalize outcome : journal.advance env {} transition world.disk = pair at ends ⊢
      obtain ⟨_, reached⟩ := pair
      cases ends with
      | refused flaw =>
        cases flaw with
        | failed =>
          refine ⟨followed.chained, followed.proper, followed.folders, fun other found => ?_⟩
          cases found
          exact ⟨sameInventory, sameAuthentication, sameRecord⟩
        | crashed => exact ⟨followed.chained, followed.proper, followed.folders, by rintro _ ⟨⟩⟩
      | done _ reached passage proper settled synced =>
        refine ⟨⟨passage, sameRecord, followed.chained⟩, proper, fun folder listed => ?_, fun other found => ?_⟩
        · change folder ∈ reached.folder :: reached.older at listed
          rw [synced, mem_singleton] at listed
          rw [listed]
          exact settled
        · cases found
          exact ⟨sameInventory, sameAuthentication, rfl⟩

theorem initial_sound (order : ascending (inv.objects.map MigrationObject.objectId) = true)
    (valid : (initialRecord binding inv).Valid) : Sound inv (initialRecord binding inv) := by
  have untouched : ∀ (oid : Str) state, (initialRecord binding inv).objects[oid]? = some state → state = .pending none 0 := by
    intro oid state stored
    exact of_decide_eq_true ((states_all _ _).mp valid.phase oid state stored)
  refine ⟨fun object listed => ⟨.pending none 0, ?_⟩, fun object listed state stored entered => ?_,
    fun object listed opId attempt targetSha256 stored => ?_⟩
  · have distinct := ascending_pairwise _ order
    rw [pairwise_map] at distinct
    refine getElem?_ofList_of_mem (k := object.objectId) ReflCmp.compare_self ?_ (List.mem_map.mpr ⟨object, listed, rfl⟩)
    rw [pairwise_map]
    refine distinct.imp ?_
    intro a b before same
    rw [before] at same
    cases same
  · rw [untouched _ _ stored] at entered
    cases entered
  · cases untouched _ _ stored

/-- Every passage of a migration is safe, and its directory opens at the last one. -/
theorem migration_safe (lawful : env.Lawful) (journal : DurableMigrationJournal) (folder : Folder)
    (created : createWithAuthentication env binding inv auth = .ok (journal, folder)) (events : List Event)
    (quiet : ∀ event ∈ events, Quiet event) (passages : Passages)
    (isHistory : passages = history (step env binding inv auth) (Passages.follow env) ⟨⟨folder, []⟩, some journal⟩ []
      events) :
    passages.Safe inv journal.record ∧ (∃ recovered, openWithAuthentication env binding inv auth
        (run (step env binding inv auth) ⟨⟨folder, []⟩, some journal⟩ events).disk.folder =
          .ok ⟨inv, passages.current journal.record, recovered, auth⟩) ∧
      ∀ live, (run (step env binding inv auth) ⟨⟨folder, []⟩, some journal⟩ events).live = some live →
        live.record = passages.current journal.record := by
  obtain ⟨arguments, held⟩ := created_held env binding inv auth journal folder created
  have order := arguments_order arguments
  obtain ⟨isInitial, isFolder⟩ := created_shape env binding inv auth journal folder created
  have proper := held.proper journal rfl
  have start : Followed env binding inv auth journal.record ⟨⟨folder, []⟩, some journal⟩ [] := by
    refine ⟨trivial, proper, fun other listed => ⟨?_, fun gen => ?_⟩, fun other found => ?_⟩
    · obtain ⟨_, known, _, selects⟩ := held.folders other listed
      rw [mem_singleton.mp known] at selects
      exact selects
    · rw [mem_singleton.mp listed, isFolder]
      exact getElem?_empty
    · cases found
      exact ⟨(held.same journal rfl).1, (held.same journal rfl).2, rfl⟩
  have reached := history_invariant
    (fun _ _ _ allowed followed => by exact step_followed env binding inv auth lawful arguments allowed followed) _ _ start (along_all _ Quiet _ events quiet)
  rw [← isHistory] at reached
  have sound : Sound inv journal.record := by
    rw [isInitial]
    exact initial_sound binding inv order (isInitial ▸ proper.valid)
  refine ⟨chained_safe order proper.valid (by rw [isInitial]; rfl) sound reached.chained, ?_, fun live found => (reached.live live found).2.2⟩
  exact selects_opens lawful arguments reached.proper
    (reached.folders _ mem_cons_self).selects

end

-- Fence, a restart, an object and the one that depends on it copied, cutover, and back.
def wholeMigration : List Event :=
  [.transition (fenceWith 101) {}, .stop, .reopen, .transition (.beginObject (str "x") (str "o")) {},
    .transition (.markOutcomeUnknown (str "x") (str "o")) {}, .transition (.confirmNotCommitted (str "x") (str "o")) {},
    .transition (.beginObject (str "x") (str "p")) {}, .transition (.confirmCommitted (str "x") (str "p") (replicate 64 98)) {},
    .transition (.beginObject (str "y") (str "q")) {}, .transition (.confirmCommitted (str "y") (str "q") (replicate 64 99)) {},
    .transition .verifyCopy {}, .transition (.activateTarget ⟨str "b", true, 8, replicate 64 99⟩ (replicate 64 100)) {},
    .transition (.fenceTarget ⟨str "b", false, 9, replicate 64 101⟩) {},
    .transition (.rollback ⟨str "a", true, 10, replicate 64 102⟩ (replicate 64 100)) {}]

theorem migration_safe_dependency :
    (history (step journalEnv sampleBinding sampleInventory .legacyChecksum) (Passages.follow journalEnv) startWorld
      [] wholeMigration).Safe
      sampleInventory (initialRecord sampleBinding sampleInventory) := by
  have created := @created_ok ⟨sampleInventory, initialRecord sampleBinding sampleInventory, false, .legacyChecksum⟩ startWorld.disk.folder rfl
  have same : (⟨⟨startWorld.disk.folder, []⟩, some ⟨sampleInventory, initialRecord sampleBinding sampleInventory, false, .legacyChecksum⟩⟩ : World) =
      startWorld := rfl
  have quiet : ∀ event ∈ wholeMigration, Quiet event := by simp [wholeMigration, Quiet]
  have safe := migration_safe journalEnv sampleBinding sampleInventory .legacyChecksum journal_env_lawful _ _ created wholeMigration quiet _ rfl
  rw [same] at safe
  exact safe.1

end HeptaBao.Migration
