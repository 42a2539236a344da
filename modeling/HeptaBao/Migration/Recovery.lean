import HeptaBao.Migration.JsonForm
import HeptaBao.Migration.Persistence
import HeptaBao.Migration.Validity

namespace HeptaBao.Migration

open Wire Std Durable Exec Action List
open Domain (nextGeneration next_generation_some)

theorem checked_ok {α : Type} (res : Checked α) {value : α} (passes : res.mapError Stop.failed = .ok value) :
    res = .ok value := by
  cases res with
  | error => cases passes
  | ok =>
    cases passes
    rfl

theorem candidate_binding {inv : MigrationInventory} {record : JournalRecord} {transition : Transition}
    {next : JournalRecord}
    (made : record.candidate inv transition = .ok next) : next.binding = record.binding := by
  cases JournalRecord.candidate_shift record made <;> rfl

def DurableMigrationJournal.proposal (journal : DurableMigrationJournal) (transition : Transition) :
    Option JournalRecord :=
  match journal.record.candidate journal.inventory transition, nextGeneration journal.record.generation with
  | .ok candidate, some gen => some { candidate with generation := gen }
  | _, _ => none

-- The record of the last success, and those proposed since without one.
structure Trail where
  acknowledged : JournalRecord
  attempted : List JournalRecord

def Trail.follow (env : JournalEnv) (world : World) (event : Event) (trail : Trail) : Trail :=
  match event, world.live with
  | .transition transition faults, some journal =>
    match journal.proposal transition, (journal.advance env faults transition world.disk).1 with
    | none, _ => trail
    | some next, .ok _ => ⟨next, []⟩
    | some next, .error _ => ⟨trail.acknowledged, next :: trail.attempted⟩
  | _, _ => trail

def Trail.records (trail : Trail) : List JournalRecord := trail.acknowledged :: trail.attempted

section

variable (env : JournalEnv) (binding : MigrationBinding) (inv : MigrationInventory) (auth : JournalAuthentication)

theorem persist_oversized (faults : Faults) (next : JournalRecord) (start : Disk)
    (large : maxJournalBytes < (auth.encode env next).length) :
    Ends (persistReplace env faults next auth) start fun res reached => reached = start ∧
      ∃ flaw, res = .error flaw := by
  have looks : ∀ (fault : Option Fault) (rest : Unit → DiskAction Unit),
      Ends (rest ()) start (fun res reached => reached = start ∧ ∃ flaw, res = .error flaw) →
        Ends (look fault >>= rest) start fun res reached => reached = start ∧ ∃ flaw, res = .error flaw := by
    intro fault rest ends
    refine ends_bind (fun _ reached => reached = start) (look_ends _ _ _ rfl fun _ => rfl) ?_ ?_
    · rintro flaw _ rfl
      exact ⟨rfl, flaw, rfl⟩
    · rintro _ _ rfl
      exact ends
  unfold persistReplace
  refine looks _ _ (looks _ _ (looks _ _ ?_))
  have refused : require (auth.encode env next ≠ [] ∧ (auth.encode env next).length ≤ maxJournalBytes)
      .invalidJournal = .error .invalidJournal := if_neg fun both => Nat.not_lt.mpr both.2 large
  refine ends_bind (fun res reached => reached = start ∧ ∃ flaw, res = .error flaw) ?_ ?_ ?_
  · unfold writeNew checked
    rw [refused]
    exact ⟨rfl, _, rfl⟩
  · rintro flaw _ ⟨rfl, _⟩
    exact ⟨rfl, flaw, rfl⟩
  · rintro _ _ ⟨_, _, wrong⟩
    cases wrong

-- A transition ends with nothing proposed, or with a proper record, in place or not.
inductive Advanced (journal : DurableMigrationJournal) (transition : Transition) (start : Disk) :
    Except Stop DurableMigrationJournal → Disk → Prop
  | refused (flaw : Stop) : Advanced journal transition start (.error flaw) start
  | failed (next : JournalRecord) (flaw : Stop) (reached : Disk) (proposed : journal.proposal transition = some next)
      (proper : Proper env binding inv auth next) (later : journal.record.generation < next.generation)
      (undecided : Undecided env binding inv auth journal.record next start reached) :
      Advanced journal transition start (.error flaw) reached
  | done (next : JournalRecord) (reached : Disk) (proposed : journal.proposal transition = some next)
      (proper : Proper env binding inv auth next)
      (selects : Selects env binding inv auth reached.folder next) (synced : reached.older = []) :
      Advanced journal transition start (.ok { journal with record := next, recoveredFromPrevious := false }) reached

variable {env binding inv auth} in
theorem advance_hands_over {journal : DurableMigrationJournal} {faults : Faults} {transition : Transition}
    {start : Disk}
    {post : Except Stop DurableMigrationJournal → Disk → Prop} (sameInventory : journal.inventory = inv)
    (sameAuthentication : journal.authentication = auth) (proper : Proper env binding inv auth journal.record)
    (refused : ∀ flaw, post (.error flaw) start)
    (persists : ∀ candidate gen, journal.record.candidate inv transition = .ok candidate →
      journal.proposal transition = some { candidate with generation := gen } → journal.record.generation < gen →
      Proper env binding inv auth { candidate with generation := gen } →
      Ends (persistReplace env faults { candidate with generation := gen } auth) start fun res reached =>
        post (res.map fun _ => { journal with record := { candidate with generation := gen }, recoveredFromPrevious := false })
          reached) :
    Ends (journal.advance env faults transition) start post := by
  subst sameInventory sameAuthentication
  unfold DurableMigrationJournal.advance
  refine ends_lift_cases (fun flaw _ => refused flaw) fun candidate made => ?_
  have made := checked_ok _ made
  unfold DurableMigrationJournal.commit
  cases raised : nextGeneration journal.record.generation with
  | none => exact refused _
  | some gen =>
    have value := next_generation_some _ _ raised
    have later : journal.record.generation < gen := by
      rw [UInt64.lt_iff_toNat_lt]
      omega
    have proposed : journal.proposal transition = some { candidate with generation := gen } := by
      simp only [DurableMigrationJournal.proposal, made, raised]
    refine ends_lift_cases (fun flaw _ => refused flaw) fun _ validated => ?_
    have valid := (JournalRecord.validate_ok _).mp (checked_ok _ validated)
    refine ends_lift_cases (fun flaw _ => refused flaw) fun _ matched => ?_
    have listed := checked_ok _ matched
    by_cases large : maxJournalBytes < (journal.authentication.encode env { candidate with generation := gen }).length
    · refine ends_bind _ (persist_oversized env journal.authentication faults _ start large) ?_ ?_
      · rintro flaw _ ⟨rfl, _⟩
        exact refused flaw
      · rintro _ _ ⟨_, _, wrong⟩
        cases wrong
    · exact ends_bind _ (persists candidate gen made proposed later
        ⟨valid, (candidate_binding made).trans proper.bound, listed, Nat.not_lt.mp large⟩) (fun _ _ ended => ended) fun _ _ ended => ended

theorem advance_ends (journal : DurableMigrationJournal) (faults : Faults)
    (truthful : ∀ part, faults.currentRemains ≠ some (.fails part))
    (transition : Transition) (start : Disk) (sameInventory : journal.inventory = inv)
    (sameAuthentication : journal.authentication = auth)
    (proper : Proper env binding inv auth journal.record)
    (selects : Selects env binding inv auth start.folder journal.record) :
    Ends (journal.advance env faults transition) start (Advanced env binding inv auth journal transition start) := by
  refine advance_hands_over sameInventory sameAuthentication proper (fun flaw => .refused flaw)
    fun candidate gen _ proposed later nextProper => ?_
  refine ends_weaken (persist_replace_ends env binding inv auth journal.record _ start faults truthful proper later
    selects) ?_
  rintro (flaw | _) reached ended
  · exact .failed _ flaw reached proposed nextProper later ended.1
  · obtain ⟨inPlace, synced, _⟩ := ended.2 rfl
    exact .done _ reached proposed nextProper inPlace synced

-- The file is no newer than the record in memory, and right after a failed rename.
def Careful (world : World) (event : Event) : Prop :=
  match event with
  | .transition _ faults => (∀ part, faults.currentRemains ≠ some (.fails part)) ∧ ∀ journal, world.live = some journal →
      ∀ bytes newer, world.disk.folder.current = some bytes → auth.decode env bytes = .ok newer → newer.generation ≤ journal.record.generation
  | _ => True

-- All the directory may hold is on the trail, and the live journal is not ahead of it.
structure Held (world : World) (trail : Trail) : Prop where
  folders : ∀ folder ∈ world.disk.folder :: world.disk.older, ∃ record ∈ trail.records,
    Proper env binding inv auth record ∧ Selects env binding inv auth folder record
  same : ∀ journal, world.live = some journal → journal.inventory = inv ∧ journal.authentication = auth
  proper : ∀ journal, world.live = some journal → Proper env binding inv auth journal.record
  known : ∀ journal, world.live = some journal → journal.record ∈ trail.records
  behind : ∀ journal, world.live = some journal → Selects env binding inv auth world.disk.folder journal.record ∨
    ∃ newer, Proper env binding inv auth newer ∧ journal.record.generation < newer.generation ∧
      world.disk.folder.current = some (auth.encode env newer)

section

variable {env binding inv auth} {disk : Disk} {trail : Trail}

theorem held_down (folders : ∀ folder ∈ disk.folder :: disk.older, ∃ record ∈ trail.records,
      Proper env binding inv auth record ∧ Selects env binding inv auth folder record) : Held env binding inv auth
        ⟨disk, none⟩ trail :=
  ⟨folders, fun _ wrong => (nomatch wrong), fun _ wrong => (nomatch wrong), fun _ wrong => (nomatch wrong), fun _ wrong => nomatch wrong⟩

theorem held_up (down : Held env binding inv auth ⟨disk, none⟩ trail) {journal : DurableMigrationJournal}
    (same : journal.inventory = inv ∧ journal.authentication = auth)
    (proper : Proper env binding inv auth journal.record) (known : journal.record ∈ trail.records)
    (behind : Selects env binding inv auth disk.folder journal.record ∨
      ∃ newer, Proper env binding inv auth newer ∧ journal.record.generation < newer.generation ∧
        disk.folder.current = some (auth.encode env newer)) : Held env binding inv auth ⟨disk, some journal⟩ trail := by
  refine ⟨down.folders, ?_, ?_, ?_, ?_⟩ <;> rintro _ ⟨⟩
  exacts [same, proper, known, behind]

theorem held_grows {world : World} {later : Trail} (grows : ∀ record ∈ trail.records, record ∈ later.records)
    (held : Held env binding inv auth world trail) : Held env binding inv auth world later := by
  refine ⟨fun folder listed => ?_, held.same, held.proper, fun journal alive => grows _ (held.known journal alive), held.behind⟩
  obtain ⟨record, known, rest⟩ := held.folders folder listed
  exact ⟨record, grows record known, rest⟩

end

theorem lost_listed {disk : Disk} {back : Nat} {folder : Folder}
    (listed : folder ∈ [((disk.folder :: disk.older)[back]?).getD disk.folder]) :
      folder ∈ disk.folder :: disk.older := by
  rw [mem_singleton.mp listed]
  cases chosen : (disk.folder :: disk.older)[back]? with
  | none => exact mem_cons_self
  | some => exact mem_of_getElem? chosen

variable (lawful : env.Lawful)

include lawful

theorem careful_selects {world : World} {trail : Trail} (held : Held env binding inv auth world trail)
    {transition : Transition} {faults : Faults} (careful : Careful env auth world (.transition transition faults))
    {journal : DurableMigrationJournal} (alive : world.live = some journal) :
      Selects env binding inv auth world.disk.folder journal.record := by
  rcases held.behind journal alive with selects | ⟨newer, proper, later, current⟩
  · exact selects
  · have known := careful.2 journal alive _ newer current (decode_encode env lawful auth newer proper.valid)
    exact absurd later (UInt64.not_lt.mpr known)

theorem step_held (arguments : validateArguments env binding inv = .ok ()) {world : World} {event : Event}
    {trail : Trail}
    (careful : Careful env auth world event) (held : Held env binding inv auth world trail) :
    Held env binding inv auth (step env binding inv auth world event) (trail.follow env world event) := by
  obtain ⟨disk, live⟩ := world
  cases event with
  | stop => exact held_down held.folders
  | lose back => exact held_down fun folder listed => held.folders folder (lost_listed listed)
  | reopen =>
    cases live with
    | some => exact held
    | none =>
      obtain ⟨record, listed, proper, selects⟩ := held.folders disk.folder mem_cons_self
      obtain ⟨_, opened⟩ := selects_opens lawful arguments proper selects
      simp only [step, opened]
      exact held_up held ⟨rfl, rfl⟩ proper listed (.inl selects)
  | transition transition faults =>
    cases live with
    | none => exact held
    | some journal =>
      have same := held.same journal rfl
      have proper := held.proper journal rfl
      have selects := careful_selects env binding inv auth lawful held careful rfl
      have ends := advance_ends env binding inv auth journal faults careful.1 transition disk same.1 same.2 proper selects
      unfold Ends at ends
      simp only [step, Trail.follow]
      -- What the directory could fall back to stays on the trail.
      have longer : ∀ next, ∀ record ∈ trail.records, record ∈ (⟨trail.acknowledged, next :: trail.attempted⟩ : Trail).records := by
        intro next record listed
        rcases mem_cons.mp listed with rfl | older
        · exact mem_cons_self
        · exact mem_cons_of_mem _ (mem_cons_of_mem _ older)
      generalize outcome : journal.advance env faults transition disk = pair at ends ⊢
      obtain ⟨_, reached⟩ := pair
      cases ends with
      | refused flaw =>
        -- The record may have been proposed and turned away at once.
        cases journal.proposal transition with
        | none => cases flaw with
            | failed => exact held
            | crashed => exact held_down held.folders
        | some next =>
          have kept := held_grows (longer next) held
          cases flaw with
            | failed => exact kept
            | crashed => exact held_down kept.folders
      | failed next flaw reached proposed nextProper later undecided =>
        simp only [proposed]
        have known := longer next _ (held.known journal rfl)
        have down : Held env binding inv auth ⟨reached, none⟩ ⟨trail.acknowledged, next :: trail.attempted⟩ := by
          refine held_down fun folder listed => ?_
          rcases undecided.between folder listed with older | old | new
          · exact (held_grows (longer next) held).folders folder older
          · exact ⟨journal.record, known, proper, old⟩
          · exact ⟨next, mem_cons_of_mem _ mem_cons_self, nextProper, new⟩
        cases flaw with
        | crashed => exact down
        | failed => exact held_up down same proper known (undecided.holds.imp_right fun current => ⟨next, nextProper, later, current⟩)
      | done next reached proposed nextProper inPlace synced =>
        simp only [proposed]
        refine held_up (held_down fun folder listed => ?_) same nextProper mem_cons_self (.inl inPlace)
        rw [synced, mem_singleton] at listed
        exact ⟨next, mem_cons_self, nextProper, listed ▸ inPlace⟩

omit lawful in
theorem created_shape (journal : DurableMigrationJournal) (folder : Folder)
    (created : createWithAuthentication env binding inv auth = .ok (journal, folder)) :
    journal.record = initialRecord binding inv ∧ folder.temporary = ∅ := by
  unfold createWithAuthentication at created
  obtain ⟨_, created⟩ := unit_bind_ok created
  obtain ⟨_, created⟩ := unit_bind_ok created
  obtain ⟨_, created⟩ := unit_bind_ok created
  obtain ⟨_, created⟩ := unit_bind_ok created
  cases created
  exact ⟨rfl, rfl⟩

omit lawful in
theorem created_held (journal : DurableMigrationJournal) (folder : Folder)
    (created : createWithAuthentication env binding inv auth = .ok (journal, folder)) :
      validateArguments env binding inv = .ok () ∧
      Held env binding inv auth ⟨⟨folder, []⟩, some journal⟩ ⟨journal.record, []⟩ := by
  unfold createWithAuthentication at created
  obtain ⟨arguments, created⟩ := unit_bind_ok created
  obtain ⟨validated, created⟩ := unit_bind_ok created
  obtain ⟨listed, created⟩ := unit_bind_ok created
  obtain ⟨sized, created⟩ := unit_bind_ok created
  cases created
  have proper : Proper env binding inv auth (initialRecord binding inv) :=
    ⟨(JournalRecord.validate_ok _).mp validated, rfl, listed, ((require_ok).mp sized).2⟩
  have selects : Selects env binding inv auth
      ⟨some (auth.encode env (initialRecord binding inv)), none, ∅⟩ (initialRecord binding inv) :=
    .inl ⟨rfl, fun _ wrong => nomatch wrong⟩
  refine ⟨arguments, held_up (held_down fun folder inList => ?_) ⟨rfl, rfl⟩ proper mem_cons_self (.inl selects)⟩
  rw [mem_singleton.mp inList]
  exact ⟨_, mem_cons_self, proper, selects⟩

/-- A directory that careful calls leave opens at the last acknowledged record or a later proposal. -/
theorem journal_recovers (journal : DurableMigrationJournal) (folder : Folder)
    (created : createWithAuthentication env binding inv auth = .ok (journal, folder)) (events : List Event)
    (careful : Along (step env binding inv auth) (Careful env auth) ⟨⟨folder, []⟩, some journal⟩ events) :
    ∃ reopened, openWithAuthentication env binding inv auth
        (run (step env binding inv auth) ⟨⟨folder, []⟩, some journal⟩ events).disk.folder = .ok reopened ∧
      reopened.record ∈ (history (step env binding inv auth) (Trail.follow env)
        ⟨⟨folder, []⟩, some journal⟩ ⟨journal.record, []⟩ events).records := by
  obtain ⟨arguments, start⟩ := created_held env binding inv auth journal folder created
  have reached := history_invariant
    (fun _ _ _ allowed held => by exact step_held env binding inv auth lawful arguments allowed held)
    _ _ start careful
  obtain ⟨_, listed, proper, selects⟩ := reached.folders _ mem_cons_self
  obtain ⟨_, opened⟩ := selects_opens lawful arguments proper selects
  exact ⟨_, opened, listed⟩

end

theorem sample_creates : (createWithAuthentication journalEnv sampleBinding sampleInventory .legacyChecksum).isOk =
    true := by
  decide +kernel

theorem created_ok {journal : DurableMigrationJournal} {folder : Folder}
    (same : startWorld = ⟨⟨folder, []⟩, some journal⟩) :
    createWithAuthentication journalEnv sampleBinding sampleInventory .legacyChecksum = .ok (journal, folder) := by
  have made := sample_creates
  cases same
  cases created : createWithAuthentication journalEnv sampleBinding sampleInventory .legacyChecksum with
  | error =>
    rw [created] at made
    cases made
  | ok =>
    unfold createWithAuthentication at created
    obtain ⟨_, created⟩ := unit_bind_ok created
    obtain ⟨_, created⟩ := unit_bind_ok created
    obtain ⟨_, created⟩ := unit_bind_ok created
    obtain ⟨_, created⟩ := unit_bind_ok created
    cases created
    rfl

-- A crash while the current file is set aside, a reopening and a second crash.
def interruptedFence : List Event :=
  [.transition (fenceWith 101) { keep := some (.dies 1) }, .lose 0, .reopen, .stop]

theorem start_careful (transition : Transition) (faults : Faults)
    (truthful : ∀ part, faults.currentRemains ≠ some (.fails part))
    (valid : (initialRecord sampleBinding sampleInventory).Valid) : Careful journalEnv .legacyChecksum startWorld
      (.transition transition faults) := by
  refine ⟨truthful, fun journal alive bytes newer current decoded => ?_⟩
  have isInitial : journal = ⟨sampleInventory, initialRecord sampleBinding sampleInventory, false, .legacyChecksum⟩ := (Option.some.inj alive).symm
  have isEncoded := (Option.some.inj current).symm
  rw [isEncoded, decode_encode journalEnv journal_env_lawful .legacyChecksum _ valid] at decoded
  rw [isInitial, ← Except.ok.inj decoded]
  exact UInt64.le_refl _

theorem journal_recovers_interrupted : ∃ found, reopened (worldAfter interruptedFence) = .ok found ∧
    found.record ∈ (history (step journalEnv sampleBinding sampleInventory .legacyChecksum) (Trail.follow journalEnv)
      startWorld
      ⟨initialRecord sampleBinding sampleInventory, []⟩ interruptedFence).records := by
  have created := @created_ok ⟨sampleInventory, initialRecord sampleBinding sampleInventory, false, .legacyChecksum⟩ startWorld.disk.folder rfl
  obtain ⟨_, held⟩ := created_held journalEnv sampleBinding sampleInventory .legacyChecksum _ _ created
  have careful := start_careful (fenceWith 101) { keep := some (.dies 1) } (fun _ wrong => nomatch wrong) (held.proper _ rfl).valid
  have same : (⟨⟨startWorld.disk.folder, []⟩, some ⟨sampleInventory, initialRecord sampleBinding sampleInventory, false, .legacyChecksum⟩⟩ : World) =
      startWorld := rfl
  have recovers := journal_recovers journalEnv sampleBinding sampleInventory .legacyChecksum journal_env_lawful _ _ created interruptedFence
  rw [same] at recovers
  exact recovers ⟨careful, trivial, trivial, trivial, trivial⟩

-- A last sync fails after the rename and the caller fences with another receipt.
def continuedFence : List Event :=
  [.transition (fenceWith 101) { syncPublished := some (.fails 0) }, .transition (fenceWith 102) {}]

theorem continued_fence_ambiguous : (createWithAuthentication journalEnv sampleBinding sampleInventory
    .legacyChecksum).isOk = true ∧
    (worldAfter continuedFence).live.map (fun journal => journal.record.generation) = some 2 ∧
    (reopened (worldAfter continuedFence)).isOk = false := by
  refine ⟨sample_creates, ?_, ?_⟩
  · decide +kernel
  · decide +kernel

end HeptaBao.Migration
