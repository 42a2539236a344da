import HeptaBao.Anchor.Coordinator
import HeptaBao.Exec.Runs

namespace HeptaBao.Anchor

open Wire Durable Contracts Exec List

-- The later observation is of the same store and journal, no coordinate went back
-- and the generation or the position went on.
structure Follows (earlier later : Observation) : Prop where
  store : later.storeDomain = earlier.storeDomain
  journal : later.journalDomain = earlier.journalDomain
  generation : earlier.generation.value ≤ later.generation.value
  position : earlier.journalPosition ≤ later.journalPosition
  epoch : earlier.keyEpoch.value ≤ later.keyEpoch.value
  moved : earlier.generation.value < later.generation.value ∨ earlier.journalPosition < later.journalPosition

theorem follows_trans (first second third : Observation) (early : Follows first second)
    (late : Follows second third) : Follows first third :=
  ⟨late.store.trans early.store, late.journal.trans early.journal, early.generation.trans late.generation,
    early.position.trans late.position, early.epoch.trans late.epoch,
    early.moved.imp (fun more => more.trans_le late.generation) (fun more => more.trans_le late.position)⟩

def Agree (earlier later : Observation) : Prop :=
  (earlier.generation = later.generation → earlier.stateDigest = later.stateDigest) ∧
    (earlier.journalPosition = later.journalPosition → earlier.journalTail = later.journalTail)

instance (earlier later : Observation) : Decidable (Agree earlier later) := inferInstanceAs (Decidable (_ ∧ _))

-- The two contradictions that a further step in the other coordinate hides.
def Forks (earlier later : Observation) : Prop :=
  (earlier.generation = later.generation ∧ earlier.journalPosition < later.journalPosition ∧ earlier.stateDigest ≠ later.stateDigest) ∨
    (earlier.journalPosition = later.journalPosition ∧ earlier.generation.value < later.generation.value ∧
      earlier.journalTail ≠ later.journalTail)

instance (earlier later : Observation) : Decidable (Forks earlier later) := inferInstanceAs (Decidable (_ ∨ _))

theorem follows_agree {earlier later : Observation} (follows : Follows earlier later)
    (straight : ¬ Forks earlier later) : Agree earlier later := by
  have moved := follows.moved
  constructor
  · intro same
    by_contra differs
    rw [same] at moved
    exact straight (.inl ⟨same, by omega, differs⟩)
  · intro same
    by_contra differs
    exact straight (.inr ⟨same, by omega, differs⟩)

structure Linked (accepted : List Checkpoint) : Prop where
  revisions : ∀ index point, accepted[index]? = some point → point.revision.value = index + 1
  links : ∀ index point, accepted[index]? = some point → point.previousDigest =
    (if index = 0 then none else accepted[index - 1]?.map (·.digest))
  ordered : accepted.Pairwise fun earlier later => Follows earlier.observation later.observation

def NoFork (accepted : List Checkpoint) : Prop := accepted.Pairwise fun earlier later => Agree earlier.observation later.observation

instance (accepted : List Checkpoint) : Decidable (NoFork accepted) := inferInstanceAs (Decidable (List.Pairwise _ _))

theorem compare_advances (anchored observed : Observation)
    (answer : compareObservation anchored observed = .ok .advanceRequired) :
    Follows anchored observed := by
  rw [compareObservation] at answer
  by_cases domains : anchored.storeDomain ≠ observed.storeDomain ∨ anchored.journalDomain ≠ observed.journalDomain
  · rw [if_pos domains] at answer
    cases answer
  · rw [if_neg domains] at answer
    by_cases behind : observed.generation.value < anchored.generation.value ∨ observed.journalPosition < anchored.journalPosition
    · rw [if_pos behind] at answer
      cases answer
    · rw [if_neg behind] at answer
      by_cases regressed : observed.keyEpoch.value < anchored.keyEpoch.value
      · rw [if_pos regressed] at answer
        cases answer
      · rw [if_neg regressed] at answer
        by_cases same : observed.generation.value = anchored.generation.value ∧ observed.journalPosition = anchored.journalPosition
        · rw [if_pos same] at answer
          split at answer
          all_goals cases answer
        · simp only [not_or, not_not] at domains
          exact ⟨domains.1.symm, domains.2.symm, by omega, by omega, by omega, by omega⟩

-- An observation that repeats both coordinates and differs elsewhere is a divergence.
theorem compare_diverges {anchored observed : Observation} (store : observed.storeDomain = anchored.storeDomain)
    (journal : observed.journalDomain = anchored.journalDomain) (generation : observed.generation = anchored.generation)
    (position : observed.journalPosition = anchored.journalPosition)
    (epoch : anchored.keyEpoch.value ≤ observed.keyEpoch.value)
    (differs : observed.stateDigest ≠ anchored.stateDigest ∨ observed.journalTail ≠ anchored.journalTail ∨
      observed.keyEpoch ≠ anchored.keyEpoch) : compareObservation anchored observed = .error .divergentObservation := by
  rw [compareObservation, if_neg (by simp [store, journal]), if_neg (by rw [generation, position]; omega), if_neg (by omega),
    if_pos ⟨by rw [generation], position⟩, if_pos differs]

structure Extends (prev : Option Checkpoint) (observation : Observation) (next : Checkpoint) : Prop where
  revision : next.revision.value = (prev.map (·.revision.value)).getD 0 + 1
  link : next.previousDigest = prev.map (·.digest)
  observes : next.observation = observation
  follows : ∀ current, prev = some current → Follows current.observation observation

variable {authenticator : Authenticator} {observation : Observation}

theorem admit_follows {current : Checkpoint}
    (admitted : admitObservation authenticator (some current) observation = .ok ()) :
      Follows current.observation observation := by
  obtain ⟨_, _, admitted⟩ := bind_ok admitted
  apply compare_advances
  cases answer : compareObservation current.observation observation with
  | error =>
    rw [answer] at admitted
    cases admitted
  | ok disposition =>
    rw [answer] at admitted
    cases disposition with
    | advanceRequired => rfl
    | exact | unanchored => cases admitted

variable {next : Checkpoint}

theorem prepare_extends {prev : Option Checkpoint}
    (built : prepare authenticator prev observation = .ok next) : Extends prev observation next := by
  obtain ⟨_, admitted, built⟩ := bind_ok built
  obtain ⟨_, counted, built⟩ := bind_ok built
  obtain ⟨_, _, built⟩ := bind_ok built
  obtain ⟨_, _, built⟩ := bind_ok built
  cases built
  refine ⟨?_, rfl, rfl, ?_⟩
  · cases prev with
    | none =>
      cases counted
      rfl
    | some current =>
      cases following : current.revision.checkedNext with
      | none =>
        rw [nextRevision, following] at counted
        cases counted
      | some =>
        rw [nextRevision, following] at counted
        cases counted
        exact of_nat_value _ _ following
  · intro current same
    subst same
    exact admit_follows admitted

variable {accepted : List Checkpoint}

theorem linked_extend (linked : Linked accepted) (extends' : Extends accepted.getLast? observation next) :
    Linked (accepted ++ [next]) := by
  have split : ∀ index point, (accepted ++ [next])[index]? = some point →
      accepted[index]? = some point ∨ (index = accepted.length ∧ point = next) := by
    intro index point found
    by_cases inside : index < accepted.length
    · rw [getElem?_append_left inside] at found
      exact .inl found
    · rw [getElem?_append_right (by omega)] at found
      have place : index - accepted.length = 0 := by
        by_contra beyond
        rw [getElem?_eq_none (by simp; omega)] at found
        cases found
      rw [place] at found
      cases found
      exact .inr ⟨by omega, rfl⟩
  have last : accepted.getLast? = accepted[accepted.length - 1]? := getLast?_eq_getElem?
  refine ⟨fun index point found => ?_, fun index point found => ?_, ?_⟩
  · cases split index point found with
    | inl old => exact linked.revisions index point old
    | inr new =>
      obtain ⟨rfl, rfl⟩ := new
      rw [extends'.revision, last]
      cases found : accepted[accepted.length - 1]? with
      | none =>
        have empty := List.getElem?_eq_none_iff.mp found
        simp only [Option.map_none, Option.getD_none]
        omega
      | some =>
        have place := linked.revisions _ _ found
        have bound := (List.getElem?_eq_some_iff.mp found).1
        simp only [Option.map_some, Option.getD_some]
        omega
  · cases split index point found with
    | inl old =>
      have bound := (List.getElem?_eq_some_iff.mp old).1
      rw [linked.links index point old, getElem?_append_left (by omega)]
    | inr new =>
      obtain ⟨rfl, rfl⟩ := new
      rw [extends'.link, last]
      by_cases empty : accepted.length = 0
      · rw [if_pos empty, getElem?_eq_none (by omega)]
        rfl
      · rw [if_neg empty, getElem?_append_left (by omega)]
  · refine pairwise_append.mpr ⟨linked.ordered, pairwise_singleton _ _, fun earlier listed later single => ?_⟩
    rw [mem_singleton.mp single, extends'.observes]
    cases found : accepted.getLast? with
    | none =>
      rw [getLast?_eq_none_iff.mp found] at listed
      cases listed
    | some current =>
      have follows := extends'.follows current found
      obtain ⟨_, rfl⟩ := getLast?_eq_some_iff.mp found
      cases mem_append.mp listed with
      | inl before =>
        have earlier' := (pairwise_append.mp linked.ordered).2.2 earlier before current mem_cons_self
        exact follows_trans _ _ _ earlier' follows
      | inr same =>
        rw [mem_singleton.mp same]
        exact follows

theorem no_fork_extend (linked : Linked (accepted ++ [next])) (free : NoFork accepted)
    (agrees : ∀ current, accepted.getLast? = some current → Agree current.observation next.observation) :
      NoFork (accepted ++ [next]) := by
  refine pairwise_append.mpr ⟨free, pairwise_singleton _ _, fun earlier listed later single => ?_⟩
  rw [mem_singleton.mp single]
  cases found : accepted.getLast? with
  | none =>
    rw [getLast?_eq_none_iff.mp found] at listed
    cases listed
  | some current =>
    have agree := agrees current found
    have order := pairwise_append.mp linked.ordered
    obtain ⟨_, rfl⟩ := getLast?_eq_some_iff.mp found
    cases mem_append.mp listed with
    | inr same =>
      rw [mem_singleton.mp same]
      exact agree
    | inl before =>
      have early := (pairwise_append.mp order.1).2.2 earlier before current mem_cons_self
      have late := order.2.2 current (by simp) next mem_cons_self
      have known := (pairwise_append.mp free).2.2 earlier before current mem_cons_self
      constructor
      · intro same
        have between : earlier.observation.generation = current.observation.generation := by
          apply counter_ext
          have := early.generation
          have := late.generation
          rw [same] at *
          omega
        exact (known.1 between).trans (agree.1 (between.symm.trans same))
      · intro same
        have between : earlier.observation.journalPosition = current.observation.journalPosition := by
          have := early.position
          have := late.position
          omega
        exact (known.2 between).trans (agree.2 (between.symm.trans same))

-- Every call under way has read the newest accepted checkpoint or an older one.
structure Sound (world : World) : Prop where
  linked : Linked world.accepted
  current : world.current = world.accepted.getLast?
  read : ∀ caller prev observation, world.calls caller = .read (some prev) observation → prev ∈ world.accepted
  swapped : ∀ caller prev next receipt, world.calls caller = .swapped prev next receipt →
    receipt.current ∈ world.accepted
  receipts : ∀ receipt ∈ world.receipts, receipt.current ∈ world.accepted

theorem linked_same (linked : Linked accepted) {left right : Checkpoint} (first : left ∈ accepted)
    (second : right ∈ accepted) (same : left.revision = right.revision) : left = right := by
  obtain ⟨i, atLeft⟩ := mem_iff_getElem?.mp first
  obtain ⟨j, atRight⟩ := mem_iff_getElem?.mp second
  have place := linked.revisions i left atLeft
  have place' := linked.revisions j right atRight
  have index : i = j := by
    rw [same] at place
    omega
  rw [index, atRight] at atLeft
  cases atLeft
  rfl

variable {world : World}

theorem sound_set_call (sound : Sound world) (caller : Nat) (call : Call)
    (reads : ∀ prev observation, call = .read (some prev) observation → prev ∈ world.accepted)
    (swaps : ∀ prev next receipt, call = .swapped prev next receipt → receipt.current ∈ world.accepted) :
    Sound (world.setCall caller call) := by
  refine ⟨sound.linked, sound.current, fun other prev observation held => ?_, fun other prev next receipt held => ?_, sound.receipts⟩
  · by_cases same : other = caller
    · simp only [World.setCall, if_pos same] at held
      exact reads prev observation held
    · simp only [World.setCall, if_neg same] at held
      exact sound.read other prev observation held
  · by_cases same : other = caller
    · simp only [World.setCall, if_pos same] at held
      exact swaps prev next receipt held
    · simp only [World.setCall, if_neg same] at held
      exact sound.swapped other prev next receipt held

theorem sound_idle (sound : Sound world) (caller : Nat) : Sound (world.setCall caller .idle) :=
  sound_set_call sound caller .idle (fun _ _ wrong => by cases wrong) (fun _ _ _ wrong => by cases wrong)

theorem sound_take (sound : Sound world) (extends' : Extends world.current observation next) :
    Sound (world.take (some next) next) := by
  rw [sound.current] at extends'
  have kept : ∀ point ∈ world.accepted, point ∈ world.accepted ++ [next] := fun _ => mem_append_left _
  exact ⟨linked_extend sound.linked extends', by simp [World.take],
    fun caller prev observation held => kept _ (sound.read caller prev observation held),
    fun caller prev next receipt held => kept _ (sound.swapped caller prev next receipt held),
    fun receipt listed => kept _ (sound.receipts receipt listed)⟩

theorem swap_cases (world : World) (sound : Sound world) (caller : Nat) (prev : Option Checkpoint) (next : Checkpoint)
    (fault : Option Fault) (reads : ∀ point, prev = some point → point ∈ world.accepted) :
    world.swap caller prev next fault = world.setCall caller .idle ∨
      world.current = prev ∧ ∃ call, (call = .idle ∨ call = .swapped prev next ⟨prev, next⟩) ∧
        world.swap caller prev next fault = (world.take (some next) next).setCall caller call := by
  by_cases stale : world.current.map (·.revision) ≠ prev.map (·.revision)
  · have refused : compareAndSwap world.current (prev.map (·.revision)) next = none := if_pos stale
    unfold World.swap
    rw [refused]
    exact .inl rfl
  · have same : world.current = prev := by
      cases held : world.current with
      | none =>
        cases read : prev with
        | none => rfl
        | some => simp [held, read] at stale
      | some current =>
        cases read : prev with
        | none => simp [held, read] at stale
        | some point =>
          have revisions : current.revision = point.revision := by simpa [held, read] using stale
          have newest : current ∈ world.accepted := mem_of_getLast? (sound.current.symm.trans held)
          rw [linked_same sound.linked newest (reads point read) revisions]
    have written : compareAndSwap world.current (prev.map (·.revision)) next = some (⟨world.current, next⟩, some next) := if_neg stale
    unfold World.swap
    rw [written, same]
    cases fault with
    | none => exact .inr ⟨rfl, _, .inr rfl, rfl⟩
    | some fault =>
      cases fault with
      | before => exact .inl rfl
      | after => exact .inr ⟨rfl, _, .inl rfl, rfl⟩

-- What a step can do to the history: nothing, or one write that extends it.
theorem step_history (world : World) (sound : Sound world) (event : Event) :
    Sound (world.step event) ∧ ((world.step event).accepted = world.accepted ∨
      ∃ caller authenticator fault observation next, event = .swap caller authenticator fault ∧
        world.calls caller = .read world.current observation ∧ next.observation = observation ∧
        (world.step event).accepted = world.accepted ++ [next]) := by
  cases event with
  | read caller =>
    refine ⟨sound_set_call sound caller _ (fun prev _ held => ?_) (fun _ _ _ wrong => by cases wrong), .inl rfl⟩
    cases read : world.current with
    | none =>
      rw [read] at held
      cases held
    | some =>
      rw [read] at held
      cases held
      exact mem_of_getLast? (sound.current.symm.trans read)
  | failed caller => exact ⟨sound_idle sound caller, .inl rfl⟩
  | reread caller authenticator =>
    rw [World.step]
    cases held : world.calls caller with
    | idle | read => exact ⟨sound, .inl rfl⟩
    | swapped prev next receipt =>
      cases answer : confirm authenticator prev next receipt world.current with
      | error =>
        simp only [answer]
        exact ⟨sound_idle sound caller, .inl rfl⟩
      | ok returned =>
        simp only [answer]
        have same : returned = receipt := by
          rw [confirm] at answer
          by_cases differs : receipt.previous ≠ prev ∨ receipt.current ≠ next
          · rw [if_pos differs] at answer
            cases answer
          · rw [if_neg differs] at answer
            obtain ⟨_, _, answer⟩ := bind_ok answer
            by_cases lost : world.current ≠ some receipt.current
            · rw [if_pos lost] at answer
              cases answer
            · rw [if_neg lost] at answer
              cases answer
              rfl
        have grown : Sound { world with receipts := world.receipts ++ [returned] } := by
          refine ⟨sound.linked, sound.current, sound.read, sound.swapped, fun other listed => ?_⟩
          cases mem_append.mp listed with
          | inl old => exact sound.receipts other old
          | inr new =>
            rw [mem_singleton.mp new, same]
            exact sound.swapped caller prev next receipt held
        exact ⟨sound_idle grown caller, .inl rfl⟩
  | swap caller authenticator fault =>
    rw [World.step]
    cases held : world.calls caller with
    | idle | swapped => exact ⟨sound, .inl rfl⟩
    | read prev observation =>
      cases built : prepare authenticator prev observation with
      | error =>
        simp only [built]
        exact ⟨sound_idle sound caller, .inl rfl⟩
      | ok next =>
        simp only [built]
        have extends' := prepare_extends built
        have reads : ∀ point, prev = some point → point ∈ world.accepted := by
          intro point same
          rw [same] at held
          exact sound.read caller point observation held
        cases swap_cases world sound caller prev next fault reads with
        | inl refused =>
          rw [refused]
          exact ⟨sound_idle sound caller, .inl rfl⟩
        | inr written =>
          obtain ⟨same, call, kind, after⟩ := written
          rw [after]
          rw [← same] at extends'
          have taken := sound_take sound extends'
          have member : next ∈ (world.take (some next) next).accepted := by simp [World.take]
          refine ⟨sound_set_call taken caller call (fun _ _ wrong => ?_) (fun _ _ receipt was => ?_), .inr ⟨caller, authenticator,
            fault, observation, next, rfl, by rw [same]; exact held, extends'.observes, rfl⟩⟩
          · cases kind with
            | inl idle => rw [idle] at wrong; cases wrong
            | inr swapped => rw [swapped] at wrong; cases wrong
          · cases kind with
            | inl idle => rw [idle] at was; cases was
            | inr swapped =>
              rw [swapped] at was
              cases was
              exact member

-- No write forks from the checkpoint it is written over.
def Straight (world : World) : Event → Prop
  | .swap caller _ _ => ∀ current observation, world.calls caller = .read (some current) observation → ¬ Forks current.observation observation
  | _ => True

theorem step_free {event : Event} (straight : Straight world event) (holds : Sound world ∧ NoFork world.accepted) :
    Sound (world.step event) ∧ NoFork (world.step event).accepted := by
  obtain ⟨sound, free⟩ := holds
  obtain ⟨after, history⟩ := step_history world sound event
  refine ⟨after, ?_⟩
  cases history with
  | inl same => rw [same]; exact free
  | inr written =>
    obtain ⟨_, _, _, observation, _, rfl, held, observes, grown⟩ := written
    have linked := after.linked
    rw [grown] at linked ⊢
    refine no_fork_extend linked free fun current newest => ?_
    rw [sound.current, newest] at held
    have follows := (pairwise_append.mp linked.ordered).2.2 current (mem_of_getLast? newest) _ mem_cons_self
    rw [observes] at follows ⊢
    exact follows_agree follows (straight current observation held)

theorem initial_sound : Sound World.initial :=
  ⟨⟨fun _ _ found => (by cases found), fun _ _ found => (by cases found), List.Pairwise.nil⟩, rfl, fun _ _ _ wrong => (by cases wrong),
    fun _ _ _ _ wrong => (by cases wrong), fun _ listed => (by cases listed)⟩

theorem contradiction_refused (world : World) (sound : Sound world) (free : NoFork world.accepted)
    (authenticator : Authenticator)
    (observation : Observation) (earlier : Checkpoint) (listed : earlier ∈ world.accepted)
    (contradicts : ¬ Agree earlier.observation observation)
    (straight : ∀ current, world.current = some current → ¬ Forks current.observation observation) (next : Checkpoint) :
    prepare authenticator world.current observation ≠ .ok next := by
  intro built
  have extends' := prepare_extends built
  have linked := linked_extend sound.linked (by rw [← sound.current]; exact extends')
  have grown := no_fork_extend linked free fun current newest => by
    have held := sound.current.trans newest
    rw [extends'.observes]
    exact follows_agree (extends'.follows current held) (straight current held)
  have agree := (pairwise_append.mp grown).2.2 earlier listed next mem_cons_self
  rw [extends'.observes] at agree
  exact contradicts agree

theorem divergence_refused {current : Checkpoint} (verified : verifyCheckpoint authenticator current = .ok ())
    (diverges : compareObservation current.observation observation = .error .divergentObservation) :
    prepare authenticator (some current) observation = .error (.contract .divergentObservation) := by
  have refused : admitObservation authenticator (some current) observation = .error (.contract .divergentObservation) := by
    rw [admitObservation, verified]
    simp only [bind, Except.bind, diverges]
  rw [prepare, refused]
  rfl

-- A call that nothing interleaves with.
def callOf (caller : Nat) (authenticator : Authenticator) (observation : Observation) : List Event :=
  [.read caller observation, .swap caller authenticator none, .reread caller authenticator]

-- The three events of one call, run together, are advance.
theorem run_advance (world : World) (caller : Nat) (authenticator : Authenticator) (observation : Observation) :
    let after := run World.step world (callOf caller authenticator observation)
    after.current = (advance authenticator world.current observation).2 ∧
      after.receipts = world.receipts ++ (advance authenticator world.current observation).1.toOption.toList := by
  simp only [callOf, run, foldl_cons, foldl_nil, World.step, World.setCall, if_true, advance]
  cases prepare authenticator world.current observation with
  | error => simp [Except.toOption]
  | ok next =>
    simp only [World.swap, compareAndSwap, ne_eq, not_true_eq_false, if_false, World.take, World.setCall, if_true]
    cases confirm authenticator world.current next ⟨world.current, next⟩ (some next) with
    | error => simp [Except.toOption]
    | ok => simp [Except.toOption]

/-- The accepted checkpoints are one chain. Where no write forks from its base it has
no two checkpoints that contradict each other, a divergent observation is named as
such, and whatever else contradicts an accepted checkpoint is refused. -/
theorem anchor_admits_no_fork (events : List Event) (straight : Along World.step Straight World.initial events) :
    let world := run World.step World.initial events
    Linked world.accepted ∧ NoFork world.accepted ∧ (∀ receipt ∈ world.receipts, receipt.current ∈ world.accepted) ∧
      (∀ authenticator observation, ∀ earlier ∈ world.accepted, ¬ Agree earlier.observation observation →
        (∀ current, world.current = some current → ¬ Forks current.observation observation) →
        ∀ next, prepare authenticator world.current observation ≠ .ok next) ∧
      ∀ authenticator observation current, world.current = some current → verifyCheckpoint authenticator current = .ok () →
        observation.storeDomain = current.observation.storeDomain → observation.journalDomain = current.observation.journalDomain →
        observation.generation = current.observation.generation → observation.journalPosition = current.observation.journalPosition →
        current.observation.keyEpoch.value ≤ observation.keyEpoch.value →
        (observation.stateDigest ≠ current.observation.stateDigest ∨ observation.journalTail ≠ current.observation.journalTail ∨
          observation.keyEpoch ≠ current.observation.keyEpoch) →
        prepare authenticator world.current observation = .error (.contract .divergentObservation) := by
  intro world
  obtain ⟨sound, free⟩ := @run_invariant _ _ World.step Straight (fun world => Sound world ∧ NoFork world.accepted)
    (fun world event straight holds => step_free straight holds) World.initial events ⟨initial_sound, List.Pairwise.nil⟩ straight
  refine ⟨sound.linked, free, sound.receipts, fun authenticator observation earlier listed contradicts straight next =>
    contradiction_refused _ sound free authenticator observation earlier listed contradicts straight next, ?_⟩
  intro authenticator observation current held verified store journal generation position epoch differs
  rw [held]
  exact divergence_refused verified (compare_diverges store journal generation position epoch differs)

-- The authenticator of the crate's own tests.
def testAuthenticate (preimage : Bytes) : Option Mark :=
  let mixed := preimage.zipIdx.foldl (fun (output : Bytes) entry =>
    output.modify (entry.2 % 32) fun slot => UInt8.ofBitVec ((slot + entry.1).toBitVec.rotateLeft (entry.2 % 32 % 7))) (replicate 32 0)
  Mark.ofBytes (if mixed = replicate 32 0 then 1 :: replicate 31 0 else mixed)

def testAuthenticator : Authenticator := ⟨⟨str "heptabao/test-anchor", by decide⟩, testAuthenticate⟩

def markOf (byte : UInt8) (filled : byte ≠ 0) : Mark :=
  ⟨⟨replicate 32 byte, by simp⟩, fun zero => filled (replicate_right_inj (by decide) |>.mp (congrArg Digest.bytes zero))⟩

def observationOf (gen journal : Fin 9) (state : UInt8) (filled : state ≠ 0) : Observation where
  storeDomain := ⟨str "heptabao/state-test", by decide⟩
  generation := ⟨gen + 1, by omega, by omega⟩
  stateDigest := markOf state filled
  journalDomain := ⟨str "heptabao/anchor-test", by decide⟩
  journalTail := some ⟨⟨journal + 1, by omega, by omega⟩, markOf 7 (by decide)⟩
  keyEpoch := .initial

-- Generation two is accepted twice, with another digest under a longer journal.
theorem longer_journal_forks : ¬ NoFork (run World.step World.initial
    (callOf 0 testAuthenticator (observationOf 1 2 2 (by decide)) ++ callOf 0 testAuthenticator
      (observationOf 1 3 9 (by decide)))).accepted := by
  decide +kernel

theorem anchor_admits_no_fork_twice : NoFork (run World.step World.initial
    (callOf 0 testAuthenticator (observationOf 1 2 2 (by decide)) ++ callOf 0 testAuthenticator
      (observationOf 2 3 9 (by decide)))).accepted := by
  have first : (run World.step World.initial (callOf 0 testAuthenticator (observationOf 1 2 2 (by decide)))).current.map (·.observation) =
      some (observationOf 1 2 2 (by decide)) := by decide +kernel
  have straight : ¬ Forks (observationOf 1 2 2 (by decide)) (observationOf 2 3 9 (by decide)) := by decide +kernel
  have opening : Along World.step Straight World.initial (callOf 0 testAuthenticator (observationOf 1 2 2 (by decide))) := by
    refine ⟨trivial, fun _ _ held => ?_, trivial, trivial⟩
    cases held
  have closing : Along World.step Straight (run World.step World.initial (callOf 0 testAuthenticator (observationOf 1 2 2 (by decide))))
      (callOf 0 testAuthenticator (observationOf 2 3 9 (by decide))) := by
    generalize run World.step World.initial (callOf 0 testAuthenticator (observationOf 1 2 2 (by decide))) = world at first
    refine ⟨trivial, fun current observation held => ?_, trivial, trivial⟩
    obtain ⟨read, rfl⟩ := Call.read.inj held
    rw [read] at first
    have same : current.observation = observationOf 1 2 2 (by decide) := Option.some.inj first
    rw [same]
    exact straight
  exact (anchor_admits_no_fork _ ((along_append _ _ _ _ _).mpr ⟨opening, closing⟩)).2.1

end HeptaBao.Anchor
