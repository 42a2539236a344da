import HeptaBao.Migration.Validity

namespace HeptaBao.Migration

open Wire Std Durable List
open Domain (nextGeneration next_generation_some)
open JournalRecord

structure Passage where
  before : JournalRecord
  transition : Transition
  after : JournalRecord

abbrev Passages := List Passage

def Passages.current (initial : JournalRecord) : Passages → JournalRecord
  | [] => initial
  | passage :: _ => passage.after

-- What commit stores: the candidate under the next generation.
structure Passage.Lawful (inv : MigrationInventory) (passage : Passage) : Prop where
  shift : ∃ candidate gen, Shift inv passage.before passage.transition candidate ∧ passage.after = { candidate with generation := gen }
  valid : passage.after.Valid

def Passages.Chained (inv : MigrationInventory) (initial : JournalRecord) : Passages → Prop
  | [] => True
  | passage :: earlier => passage.Lawful inv ∧ passage.before = Passages.current initial earlier ∧ Passages.Chained inv initial earlier

variable (oid : Str) (inv : MigrationInventory)

def DependsOn (oid dependency : Str) : Prop :=
  ∃ object ∈ inv.objects, object.objectId = oid ∧ dependency ∈ object.dependencies

def JournalRecord.Verified (record : JournalRecord) (oid : Str) : Prop :=
  record.objects[oid]?.any MigrationObjectState.isVerified = true

def Transition.begins (transition : Transition) : Bool :=
  match transition with
  | .beginObject _ _ => true
  | _ => false

def Transition.rollsBack (transition : Transition) : Bool :=
  match transition with
  | .rollback _ _ => true
  | _ => false

def Transition.issued : Transition → Option Str
  | .beginObject _ opId => some opId
  | _ => none

variable (opId : Str)

def Transition.resolves : Transition → Bool
  | .confirmCommitted object op _ => object = oid ∧ op = opId
  | .confirmNotCommitted object op => object = oid ∧ op = opId
  | .failObject object _ => object = oid
  | _ => false

-- An attempt that was begun and not settled since.
def Passages.Unresolved (passages : Passages) (oid opId : Str) : Prop :=
  ∃ later passage earlier, passages = later ++ passage :: earlier ∧ passage.transition = .beginObject oid opId ∧
    ∀ other ∈ later, other.transition.resolves oid opId = false

-- The safety of a migration, over the records it has written.
structure Passages.Safe (inv : MigrationInventory) (initial : JournalRecord) (passages : Passages) : Prop where
  apart : ∀ record ∈ initial :: passages.map Passage.after, ¬(record.sourceWriter = true ∧ record.targetWriter = true)
  sourceOff : ∀ later passage earlier, passages = later ++ passage :: earlier → passage.transition.begins = true →
    (∀ other ∈ later, other.transition.rollsBack = false) →
      passage.before.sourceWriter = false ∧ ∀ other ∈ later ++ [passage], other.after.sourceWriter = false
  issuedOnce : (passages.filterMap fun passage => passage.transition.issued).Nodup
  oneAttempt : ∀ oid first second, passages.Unresolved oid first → passages.Unresolved oid second → first = second
  reconciled : ∀ later second between first earlier oid opId previousId,
    passages = later ++ second :: (between ++ first :: earlier) → second.transition = .beginObject oid opId →
      first.transition = .beginObject oid previousId → ∃ other ∈ between, other.transition = .confirmNotCommitted oid previousId
  ordered : ∀ passage ∈ passages, ∀ oid opId, passage.transition = .beginObject oid opId →
    ∀ dependency, Relation.TransGen (DependsOn inv) oid dependency → passage.before.Verified dependency
  settled : ∀ later passage earlier, passages = later ++ passage :: earlier → ∀ (oid : Str) opId attempt targetSha256,
    passage.after.objects[oid]? = some (.verified opId attempt targetSha256) →
      ∀ other ∈ later, other.after.objects[oid]? = some (.verified opId attempt targetSha256)
  activated : ∀ record ∈ initial :: passages.map Passage.after, record.targetWriter = true → ∀ object ∈ inv.objects,
    ∃ opId attempt, record.objects[object.objectId]? = some (.verified opId attempt object.expectedTargetSha256)
  reenabled : ∀ later passage earlier, passages = later ++ passage :: earlier → passage.before.sourceWriter = false →
    passage.after.sourceWriter = true → passage.before.states.all (fun state => !state.isUnresolved) = true ∧
      ((∃ other ∈ earlier, other.after.targetWriter = true) → ∃ newer fencing middle activating older fence activation anchorSha256,
          earlier = newer ++ fencing :: (middle ++ activating :: older) ∧ fencing.transition = .fenceTarget fence ∧
            activating.transition = .activateTarget activation anchorSha256 ∧ activation.generation < fence.generation)
  written : ∀ record ∈ initial :: passages.map Passage.after, record.validate = .ok ()

section

variable {inv : MigrationInventory} {initial : JournalRecord}

theorem chained_earlier {later earlier : Passages} (chained : Passages.Chained inv initial (later ++ earlier)) :
    Passages.Chained inv initial earlier := by
  induction later with
  | nil => exact chained
  | cons _ _ ih => exact ih chained.2.2

theorem chained_at {later : Passages} {passage : Passage} {earlier : Passages}
    (chained : Passages.Chained inv initial (later ++ passage :: earlier)) :
    passage.Lawful inv ∧ passage.before = Passages.current initial earlier := by
  obtain ⟨lawful, before, _⟩ := chained_earlier chained
  exact ⟨lawful, before⟩

theorem chained_lawful {passages : Passages} (chained : Passages.Chained inv initial passages) {passage : Passage}
    (listed : passage ∈ passages) : passage.Lawful inv := by
  obtain ⟨_, _, rfl⟩ := append_of_mem listed
  exact (chained_at chained).1

theorem passages_carry (holds : JournalRecord → Prop) (allowed : Transition → Prop)
    (keeps : ∀ passage : Passage, passage.Lawful inv → allowed passage.transition → holds passage.before →
      holds passage.after)
    {later earlier : Passages} (chained : Passages.Chained inv initial (later ++ earlier))
    (all : ∀ passage ∈ later, allowed passage.transition) (starts : holds (Passages.current initial earlier)) :
    holds (Passages.current initial (later ++ earlier)) ∧ ∀ passage ∈ later, holds passage.after := by
  induction later with
  | nil => exact ⟨starts, fun _ wrong => nomatch wrong⟩
  | cons passage _ ih =>
    obtain ⟨lawful, before, chained⟩ := chained
    obtain ⟨reached, each⟩ := ih chained fun other listed => all other (mem_cons_of_mem _ listed)
    have next : holds passage.after := keeps passage lawful (all passage mem_cons_self) (before ▸ reached)
    refine ⟨next, fun other listed => ?_⟩
    rcases mem_cons.mp listed with rfl | older
    · exact next
    · exact each other older

end

-- How one transition changes the state of one object.
inductive ObjectStep (oid : Str) : Transition → MigrationObjectState → MigrationObjectState → Prop
  | begun (opId : Str) (last : Option Str) (attempts : UInt32) :
      ObjectStep oid (.beginObject oid opId) (.pending last attempts) (.intentPersisted opId (attempts + 1))
  | marked (opId : Str) (attempt : UInt32) : ObjectStep oid (.markOutcomeUnknown oid opId)
      (.intentPersisted opId attempt) (.outcomeUnknownAfterEntry opId attempt)
  | committed (opId : Str) (attempt : UInt32) (targetSha256 : Str) : ObjectStep oid
      (.confirmCommitted oid opId targetSha256) (.intentPersisted opId attempt) (.verified opId attempt targetSha256)
  | found (opId : Str) (attempt : UInt32) (targetSha256 : Str) : ObjectStep oid
      (.confirmCommitted oid opId targetSha256) (.outcomeUnknownAfterEntry opId attempt)
      (.verified opId attempt targetSha256)
  | missed (opId : Str) (attempt : UInt32) : ObjectStep oid (.confirmNotCommitted oid opId)
      (.outcomeUnknownAfterEntry opId attempt) (.pending (some opId) attempt)
  | failed (state : MigrationObjectState) (opId : Option Str) (reasonCode : Str)
      (unsettled : failedOperation (some state) = .ok opId) :
      ObjectStep oid (.failObject oid reasonCode) state (.failedClosed opId reasonCode)

theorem object_replaced {record next : JournalRecord} {changed : Str} {old new : MigrationObjectState}
    {transition : Transition}
    (found : record.objects[changed]? = some old) (replaced : next.objects = record.objects.insert changed new)
    (step : ObjectStep changed transition old new) (oid : Str) :
    (record.objects[oid]? = none ∧ next.objects[oid]? = none) ∨ ∃ before after, record.objects[oid]? = some before ∧
      next.objects[oid]? = some after ∧ (after = before ∨ ObjectStep oid transition before after) := by
  rw [replaced, lookup_insert]
  by_cases here : changed = oid
  · subst here
    rw [if_pos rfl]
    exact .inr ⟨old, new, found, rfl, .inr step⟩
  · rw [if_neg here]
    cases stored : record.objects[oid]? with
    | none => exact .inl ⟨rfl, rfl⟩
    | some state => exact .inr ⟨state, state, rfl, rfl, .inl rfl⟩

theorem object_kept (record next : JournalRecord) (same : next.objects = record.objects) (transition : Transition)
    (oid : Str) :
    (record.objects[oid]? = none ∧ next.objects[oid]? = none) ∨ ∃ before after, record.objects[oid]? = some before ∧
      next.objects[oid]? = some after ∧ (after = before ∨ ObjectStep oid transition before after) := by
  rw [same]
  cases stored : record.objects[oid]? with
  | none => exact .inl ⟨rfl, rfl⟩
  | some state => exact .inr ⟨state, state, rfl, rfl, .inl rfl⟩

theorem shift_object {inv : MigrationInventory} {record : JournalRecord} {transition : Transition}
    {next : JournalRecord}
    (shift : Shift inv record transition next) (oid : Str) :
    (record.objects[oid]? = none ∧ next.objects[oid]? = none) ∨ ∃ before after, record.objects[oid]? = some before ∧
      next.objects[oid]? = some after ∧ (after = before ∨ ObjectStep oid transition before after) := by
  cases shift with
  | beginObject _ opId _ last attempts _ _ _ _ _ _ _ pending =>
    exact object_replaced pending rfl (.begun opId last attempts) oid
  | markOutcomeUnknown _ opId attempt _ intent =>
    exact object_replaced intent rfl (.marked opId attempt) oid
  | confirmCommitted _ opId _ attempt _ _ _ active =>
    rcases active with stored | stored
    · exact object_replaced stored rfl (.committed opId attempt _) oid
    · exact object_replaced stored rfl (.found opId attempt _) oid
  | confirmNotCommitted _ opId attempt _ unknown =>
    exact object_replaced unknown rfl (.missed opId attempt) oid
  | failObject changed reasonCode opId _ _ unsettled =>
    cases stored : record.objects[changed]? with
    | none => simp [failedOperation, stored] at unsettled
    | some state =>
      exact object_replaced stored rfl (.failed state opId reasonCode (stored ▸ unsettled)) oid
  | fenceSource | verifyCopy | activateTarget | fenceTarget | rollback => exact object_kept record _ rfl _ oid

variable {passage : Passage}

theorem passage_object {inv : MigrationInventory} (lawful : passage.Lawful inv) (oid : Str) :
    (passage.before.objects[oid]? = none ∧ passage.after.objects[oid]? = none) ∨
      ∃ before after, passage.before.objects[oid]? = some before ∧ passage.after.objects[oid]? = some after ∧
        (after = before ∨ ObjectStep oid passage.transition before after) := by
  obtain ⟨_, _, shift, written⟩ := lawful.shift
  rw [written]
  exact shift_object shift oid

theorem verified_iff (record : JournalRecord) (oid : Str) : record.Verified oid ↔
    ∃ opId attempt targetSha256, record.objects[oid]? = some (.verified opId attempt targetSha256) := by
  unfold JournalRecord.Verified
  cases stored : record.objects[oid]? with
  | none => simp
  | some state => cases state <;> simp [MigrationObjectState.isVerified]

theorem verified_kept {oid opId targetSha256 : Str} {attempt : UInt32} {inv : MigrationInventory}
    (lawful : passage.Lawful inv) (stored : passage.before.objects[oid]? = some (.verified opId attempt targetSha256)) :
    passage.after.objects[oid]? = some (.verified opId attempt targetSha256) := by
  rcases passage_object lawful oid with ⟨absent, _⟩ | ⟨before, after, was, is, same | step⟩
  · rw [absent] at stored
    cases stored
  · rw [is, same, ← was, stored]
  · rw [stored] at was
    cases was
    generalize passage.transition = transition at step
    cases step with
    | failed _ _ _ unsettled => cases unsettled

theorem stays_verified (passage : Passage) (lawful : passage.Lawful inv) (oid : Str)
    (verified : passage.before.Verified oid) : passage.after.Verified oid := by
  obtain ⟨opId, attempt, targetSha256, stored⟩ := (verified_iff _ _).mp verified
  exact (verified_iff _ _).mpr ⟨opId, attempt, targetSha256, verified_kept lawful stored⟩

def JournalRecord.Running (record : JournalRecord) (oid opId : Str) : Prop :=
  ∃ attempt, record.objects[oid]? = some (.intentPersisted opId attempt) ∨ record.objects[oid]? = some (.outcomeUnknownAfterEntry opId attempt)

theorem running_kept (inv : MigrationInventory) (passage : Passage) (lawful : passage.Lawful inv)
    (leaves : passage.transition.resolves oid opId = false) (running : passage.before.Running oid opId) :
    passage.after.Running oid opId := by
  obtain ⟨attempt, running⟩ := running
  rcases passage_object lawful oid with ⟨absent, _⟩ | ⟨before, after, was, is, same | step⟩
  · rw [absent] at running
    rcases running with wrong | wrong <;> cases wrong
  · refine ⟨attempt, ?_⟩
    rw [is, same, ← was]
    exact running
  · rw [was] at running
    generalize passage.transition = transition at step leaves
    cases step with
    | begun => rcases running with wrong | wrong <;> cases wrong
    | marked =>
      rcases running with here | wrong
      · cases here
        exact ⟨_, .inr is⟩
      · cases wrong
    | committed =>
      rcases running with here | wrong
      · cases here
        simp [Transition.resolves] at leaves
      · cases wrong
    | found | missed =>
      rcases running with wrong | here
      · cases wrong
      · cases here
        simp [Transition.resolves] at leaves
    | failed => simp [Transition.resolves] at leaves

-- After an attempt no other is made until it is found without effect.
def JournalRecord.Occupied (record : JournalRecord) (oid opId : Str) : Prop :=
  record.Running oid opId ∨ ∃ state, record.objects[oid]? = some state ∧ (state.isVerified = true ∨ state.isFailed = true)

theorem occupied_kept (inv : MigrationInventory) (passage : Passage) (lawful : passage.Lawful inv)
    (leaves : passage.transition ≠ .confirmNotCommitted oid opId) (occupied : passage.before.Occupied oid opId) :
    passage.after.Occupied oid opId := by
  rcases passage_object lawful oid with ⟨absent, _⟩ | ⟨before, after, was, is, same | step⟩
  · exfalso
    rcases occupied with ⟨attempt, wrong | wrong⟩ | ⟨state, wrong, _⟩ <;> rw [absent] at wrong <;> cases wrong
  · have unchanged : passage.after.objects[oid]? = passage.before.objects[oid]? := by rw [is, same, was]
    unfold JournalRecord.Occupied JournalRecord.Running
    rw [unchanged]
    exact occupied
  · unfold JournalRecord.Occupied JournalRecord.Running at occupied
    rw [was] at occupied
    generalize passage.transition = transition at step leaves
    cases step with
    | begun =>
      exfalso
      rcases occupied with ⟨attempt, wrong | wrong⟩ | ⟨state, here, wrong | wrong⟩
      · cases wrong
      · cases wrong
      · cases here
        cases wrong
      · cases here
        cases wrong
    | marked =>
      rcases occupied with ⟨attempt, here | wrong⟩ | ⟨state, here, wrong | wrong⟩
      · cases here
        exact .inl ⟨_, .inr is⟩
      · cases wrong
      · cases here
        cases wrong
      · cases here
        cases wrong
    | committed | found => exact .inr ⟨_, is, .inl rfl⟩
    | missed =>
      rcases occupied with ⟨attempt, wrong | here⟩ | ⟨state, here, wrong | wrong⟩
      · cases wrong
      · cases here
        exact absurd rfl leaves
      · cases here
        cases wrong
      · cases here
        cases wrong
    | failed => exact .inr ⟨_, is, .inr rfl⟩

theorem begun_running {inv : MigrationInventory} (lawful : passage.Lawful inv) {oid opId : Str}
    (begins : passage.transition = .beginObject oid opId) :
    (∃ last attempts, passage.before.objects[oid]? = some (.pending last attempts)) ∧
      passage.after.Running oid opId := by
  obtain ⟨_, _, shift, written⟩ := lawful.shift
  rw [begins] at shift
  cases shift with
  | beginObject _ _ _ last attempts _ _ _ _ _ _ _ pending =>
    refine ⟨⟨last, attempts, pending⟩, attempts + 1, .inl ?_⟩
    rw [written]
    exact (lookup_insert _ _ _ _).trans (if_pos rfl)

end HeptaBao.Migration
