import Mathlib.Data.Finset.Card
import HeptaBao.Exec.Runs
import HeptaBao.Contracts.Domain

namespace HeptaBao.Ha.Contracts

open Exec Wire List
open Domain (Id)

inductive NodeRole where
  | follower
  | leader
  | removed
deriving DecidableEq

inductive HaError where
  | invalidMembership
  | staleTerm
  | notVoter
  | staleFence
  | duplicateMember
  | missingLearner
  | lastVoter
deriving DecidableEq

structure WriterFence where
  term : Nat
  leaderId : Id
  generation : Nat
deriving DecidableEq

structure HaState where
  localNode : Id
  role : NodeRole
  term : Nat
  leaderId : Option Id
  voters : Finset Id
  learners : Finset Id
  generation : Nat

variable (state : HaState) (nodeId : Id)

namespace HaState

def new (localNode : Id) (voters : Finset Id) : Except HaError HaState :=
  if voters = ∅ ∨ localNode ∉ voters then .error .invalidMembership else .ok ⟨localNode, .follower, 0, none, voters, ∅, 0⟩

-- saturating_add(1)
def nextGeneration : Nat := min (state.generation + 1) u64Max

def observeHigherTerm (term : Nat) : Except HaError HaState :=
  if term ≤ state.term then .error .staleTerm
  else .ok { state with term := term, role := .follower, leaderId := none, generation := state.nextGeneration }

def grantLeadership (leaderId : Id) (term : Nat) : Except HaError (HaState × WriterFence) :=
  if term = 0 ∨ term < state.term then .error .staleTerm
  else if leaderId ∉ state.voters then .error .notVoter
  else .ok ({ state with
      term := term
      leaderId := some leaderId
      role := if leaderId = state.localNode then .leader else .follower
      generation := state.nextGeneration }, ⟨term, leaderId, state.nextGeneration⟩)

def validateWriter (fence : WriterFence) : Except HaError Unit :=
  if state.role ≠ .leader ∨ fence.term ≠ state.term ∨ fence.generation ≠ state.generation ∨
      state.leaderId ≠ some fence.leaderId ∨ fence.leaderId ≠ state.localNode then .error .staleFence
  else .ok ()

def addLearner : Except HaError HaState :=
  if nodeId ∈ state.voters ∨ nodeId ∈ state.learners then .error .duplicateMember
  else .ok { state with learners := insert nodeId state.learners, generation := state.nextGeneration }

def promote : Except HaError HaState :=
  if nodeId ∉ state.learners then .error .missingLearner
  else .ok { state with
    learners := state.learners.erase nodeId, voters := insert nodeId state.voters, generation := state.nextGeneration }

def removeVoter : Except HaError HaState :=
  if state.voters.card = 1 then .error .lastVoter
  else if nodeId ∉ state.voters then .error .notVoter
  else .ok { state with
    voters := state.voters.erase nodeId
    role := if nodeId = state.localNode then .removed else state.role
    leaderId := if state.leaderId = some nodeId then none else state.leaderId
    generation := state.nextGeneration }

end HaState

inductive Transition where
  | observeHigherTerm (term : Nat)
  | grantLeadership (leaderId : Id) (term : Nat)
  | addLearner (nodeId : Id)
  | promote (nodeId : Id)
  | removeVoter (nodeId : Id)

def Transition.apply : Transition → Except HaError (HaState × Option WriterFence)
  | observeHigherTerm term => (state.observeHigherTerm term).map (·, none)
  | grantLeadership leaderId term => (state.grantLeadership leaderId term).map fun granted => (granted.1, some granted.2)
  | addLearner nodeId => (state.addLearner nodeId).map (·, none)
  | promote nodeId => (state.promote nodeId).map (·, none)
  | removeVoter nodeId => (state.removeVoter nodeId).map (·, none)

-- The state, every fence so far, and what the last successful transition returned.
structure History where
  state : HaState
  fences : List WriterFence
  latest : Option WriterFence

def History.step (history : History) (transition : Transition) : History :=
  match transition.apply history.state with
  | .error _ => history
  | .ok (state, fence) => ⟨state, fence.toList ++ history.fences, fence⟩

-- A successful transition: a new generation, no earlier term, and with a fence the voter it names.
structure Applied (state next : HaState) (fence : Option WriterFence) : Prop where
  generation : next.generation = state.nextGeneration
  term : state.term ≤ next.term
  granted : ∀ made ∈ fence, made.generation = next.generation ∧ made.leaderId ∈ next.voters

theorem transition_applied {state next : HaState} {transition : Transition} {fence : Option WriterFence}
    (succeeds : transition.apply state = .ok (next, fence)) : Applied state next fence := by
  cases transition with
  | observeHigherTerm term =>
    simp only [Transition.apply, HaState.observeHigherTerm] at succeeds
    split at succeeds <;> cases succeeds
    next higher => exact ⟨rfl, (Nat.not_le.mp higher).le, nofun⟩
  | grantLeadership leaderId term =>
    simp only [Transition.apply, HaState.grantLeadership] at succeeds
    split at succeeds
    · cases succeeds
    next fresh =>
      split at succeeds <;> cases succeeds
      next voter =>
        refine ⟨rfl, Nat.not_lt.mp fun stale => fresh (.inr stale), fun made same => ?_⟩
        cases same
        exact ⟨rfl, not_not.mp voter⟩
  | addLearner nodeId =>
    simp only [Transition.apply, HaState.addLearner] at succeeds
    split at succeeds <;> cases succeeds
    exact ⟨rfl, Nat.le_refl _, nofun⟩
  | promote nodeId =>
    simp only [Transition.apply, HaState.promote] at succeeds
    split at succeeds <;> cases succeeds
    exact ⟨rfl, Nat.le_refl _, nofun⟩
  | removeVoter nodeId =>
    simp only [Transition.apply, HaState.removeVoter] at succeeds
    split at succeeds
    · cases succeeds
    split at succeeds <;> cases succeeds
    exact ⟨rfl, Nat.le_refl _, nofun⟩

-- A fence of this generation is the latest answer, and that answer names a voter.
structure Fenced (history : History) : Prop where
  bounded : ∀ fence ∈ history.fences, fence.generation ≤ history.state.generation
  newest : ∀ fence ∈ history.fences, fence.generation = history.state.generation → history.latest = some fence
  voter : ∀ fence ∈ history.latest, fence.leaderId ∈ history.state.voters

theorem step_fenced (history : History) (transition : Transition) (room : history.state.generation < u64Max)
    (fenced : Fenced history) : Fenced (history.step transition) := by
  rw [History.step]
  cases succeeds : transition.apply history.state with
  | error => exact fenced
  | ok outcome =>
    obtain ⟨next, fence⟩ := outcome
    have applied := transition_applied succeeds
    have older : ∀ other ∈ history.fences, other.generation < next.generation := by
      intro other listed
      have bounded := fenced.bounded other listed
      rw [applied.generation, HaState.nextGeneration]
      omega
    refine ⟨fun other listed => ?_, fun other listed same => ?_, fun other same => (applied.granted other same).2⟩
    · rcases mem_append.mp listed with new | old
      · exact (applied.granted other (Option.mem_toList.mp new)).1.le
      · exact (older other old).le
    · rcases mem_append.mp listed with new | old
      · exact Option.mem_toList.mp new
      · exact absurd same (older other old).ne

theorem step_term (history : History) (transition : Transition) :
    history.state.term ≤ (history.step transition).state.term := by
  rw [History.step]
  cases succeeds : transition.apply history.state with
  | error => exact Nat.le_refl _
  | ok => exact (transition_applied succeeds).term

/-- Below the last generation a term never falls, and of all fences returned so far only the answer of
the most recent successful transition can pass, for a local node that votes. -/
theorem ha_writer_fence (start : HaState) (transitions more : List Transition)
    (room : Along History.step (fun history _ => history.state.generation < u64Max) ⟨start, [], none⟩ transitions) :
    let reached := run History.step ⟨start, [], none⟩ transitions
    reached.state.term ≤ (run History.step reached more).state.term ∧
    ∀ fence ∈ reached.fences, reached.state.validateWriter fence = .ok () → reached.latest = some fence ∧
      fence.leaderId = reached.state.localNode ∧ reached.state.localNode ∈ reached.state.voters := by
  intro reached
  have fenced : Fenced reached := run_invariant step_fenced _ ⟨nofun, nofun, nofun⟩ room
  refine ⟨?_, fun fence listed valid => ?_⟩
  · exact run_preserves _ (reached.state.term ≤ ·.state.term)
      (fun history transition le => le.trans (step_term history transition)) _ _ (Nat.le_refl _)
  · rw [HaState.validateWriter] at valid
    split at valid <;> cases valid
    next accepted =>
      simp only [not_or, not_not] at accepted
      have latest := fenced.newest fence listed accepted.2.2.1
      exact ⟨latest, accepted.2.2.2.2, accepted.2.2.2.2 ▸ fenced.voter fence latest⟩

def nodeA : Id := ⟨[97], rfl⟩
def nodeB : Id := ⟨[98], rfl⟩

def pair : HaState := ⟨nodeA, .follower, 0, none, {nodeA, nodeB}, ∅, 0⟩

def readmission : List Transition :=
  [.grantLeadership nodeA 1, .removeVoter nodeA, .addLearner nodeA, .promote nodeA, .grantLeadership nodeA 1]

theorem ha_writer_fence_readmitted : let reached := run History.step ⟨pair, [], none⟩ readmission
    reached.fences = [⟨1, nodeA, 5⟩, ⟨1, nodeA, 1⟩] ∧ reached.state.validateWriter ⟨1, nodeA, 1⟩ = .error .staleFence ∧
      reached.latest = some ⟨1, nodeA, 5⟩ := by
  have held := ha_writer_fence pair readmission [] ⟨by decide, by decide, by decide, by decide, by decide, trivial⟩
  exact ⟨by decide, by decide, (held.2 ⟨1, nodeA, 5⟩ (by decide) (by decide)).1⟩

-- Two grants of one term.
theorem one_term_two_leaders : HaState.new nodeA {nodeA, nodeB} = .ok pair ∧
    (run History.step ⟨pair, [], none⟩ [.grantLeadership nodeA 1, .grantLeadership nodeB 1]).fences =
      [⟨1, nodeB, 2⟩, ⟨1, nodeA, 1⟩] :=
  ⟨rfl, by decide⟩

structure Sound (state : HaState) : Prop where
  voters : state.voters.Nonempty
  apart : Disjoint state.voters state.learners
  leader : ∀ leaderId, state.leaderId = some leaderId → leaderId ∈ state.voters
  role : state.role = .leader → state.leaderId = some state.localNode

theorem transition_sound {state next : HaState} {transition : Transition} {fence : Option WriterFence}
    (succeeds : transition.apply state = .ok (next, fence)) (sound : Sound state) : Sound next := by
  obtain ⟨voters, apart, leader, role⟩ := sound
  cases transition with
  | observeHigherTerm term =>
    simp only [Transition.apply, HaState.observeHigherTerm] at succeeds
    split at succeeds <;> cases succeeds
    exact ⟨voters, apart, nofun, nofun⟩
  | grantLeadership leaderId term =>
    simp only [Transition.apply, HaState.grantLeadership] at succeeds
    split at succeeds
    · cases succeeds
    split at succeeds <;> cases succeeds
    next voter => exact ⟨voters, apart, by simpa using voter, by simp⟩
  | addLearner nodeId =>
    simp only [Transition.apply, HaState.addLearner] at succeeds
    split at succeeds <;> cases succeeds
    next fresh => exact ⟨voters, by simp_all, leader, role⟩
  | promote nodeId =>
    simp only [Transition.apply, HaState.promote] at succeeds
    split at succeeds <;> cases succeeds
    have rest := apart.mono_right (Finset.erase_subset nodeId state.learners)
    exact ⟨by simp, by simpa using rest, fun other named => Finset.mem_insert_of_mem (leader other named), role⟩
  | removeVoter nodeId =>
    simp only [Transition.apply, HaState.removeVoter] at succeeds
    split at succeeds
    · cases succeeds
    split at succeeds <;> cases succeeds
    next several voter =>
      have more : 1 < state.voters.card := by have some := voters.card_pos; omega
      refine ⟨?_, apart.mono_left (Finset.erase_subset nodeId state.voters), by grind, by grind⟩
      exact (Finset.erase_nonempty (not_not.mp voter)).mpr (Finset.one_lt_card_iff_nontrivial.mp more)

/-- Only a local node that votes passes the writer check, even where a term has two leaders. -/
theorem accepted_writer_is_voter (localNode : Id) (voters : Finset Id) (start : HaState)
    (created : HaState.new localNode voters = .ok start)
    (transitions : List Transition) (fence : WriterFence) :
    let reached := (run History.step ⟨start, [], none⟩ transitions).state
    Sound reached ∧ (reached.validateWriter fence = .ok () →
      fence.leaderId = reached.localNode ∧ reached.localNode ∈ reached.voters) := by
  have base : Sound start := by
    rw [HaState.new] at created
    split at created <;> cases created
    next valid => exact ⟨Finset.nonempty_iff_ne_empty.mpr fun empty => valid (.inl empty), Finset.disjoint_empty_right _, nofun, nofun⟩
  have sound := run_preserves History.step (Sound ·.state) (fun history transition sound => ?_) ⟨start, [], none⟩ transitions base
  · refine ⟨sound, fun valid => ?_⟩
    rw [HaState.validateWriter] at valid
    split at valid <;> cases valid
    next accepted =>
      simp only [not_or, not_not] at accepted
      exact ⟨accepted.2.2.2.2, sound.leader _ (sound.role accepted.1)⟩
  · rw [History.step]
    cases succeeds : transition.apply history.state with
    | error => exact sound
    | ok => exact transition_sound succeeds sound

theorem second_leader_is_voter :
    let reached := (run History.step ⟨pair, [], none⟩ [.grantLeadership nodeB 1, .grantLeadership nodeA 1]).state
    reached.validateWriter ⟨1, nodeA, 2⟩ = .ok () ∧ nodeA ∈ reached.voters :=
  ⟨by decide, ((accepted_writer_is_voter nodeA {nodeA, nodeB} pair rfl [.grantLeadership nodeB 1, .grantLeadership nodeA 1] ⟨1, nodeA, 2⟩).2 (by decide)).2⟩

end HeptaBao.Ha.Contracts
