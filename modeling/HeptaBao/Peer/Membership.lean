import Mathlib.Data.Finset.Card
import HeptaBao.Durable.Validate

namespace HeptaBao.Peer

open Durable

inductive HaError where
  | invalidNode
  | invalidCluster
  | invalidOperation
  | invalidFrame
  | invalidSnapshot
  | invalidMembership
  | unknownPeer
  | peerAuthenticationFailed
  | replayDetected
  | writerBusy
  | quorumUnavailable
  | notLeader
  | operationIdConflict
  | staleLeaderResponse
  | capacityExceeded
  | transport
  | outcomeUnknown
  | invalidRoot
  | tampered
  | io
deriving DecidableEq

def maxNodeIdBytes : Nat := 128
def maxPeers : Nat := 255

def nodeIdAccepted (value : Str) : Bool :=
  value ≠ [] && value.length ≤ maxNodeIdBytes && value.all segmentByte

-- Only NodeId::parse fills a NodeId, so its check is a field.
@[ext]
structure NodeId where
  value : Str
  accepted : nodeIdAccepted value = true
deriving DecidableEq

def NodeId.parse (value : Str) : Except HaError NodeId :=
  if accepted : nodeIdAccepted value = true then .ok ⟨value, accepted⟩ else .error .invalidNode

inductive MembershipPhase where
  | joint
  | final
deriving DecidableEq

structure MembershipTransition where
  phase : MembershipPhase
  oldVoters : Finset NodeId
  newVoters : Finset NodeId

def MembershipTransition.new (phase : MembershipPhase) (oldVoters newVoters : Finset NodeId) :
    Except HaError MembershipTransition :=
  if oldVoters = ∅ ∨ newVoters = ∅ ∨ maxPeers < oldVoters.card ∨ maxPeers < newVoters.card ∨
      (phase = .final ∧ oldVoters ≠ newVoters) then .error .invalidMembership
  else .ok ⟨phase, oldVoters, newVoters⟩

def hasMajority (voters acknowledgements : Finset NodeId) : Bool :=
  voters.card / 2 < (voters ∩ acknowledgements).card

def MembershipTransition.jointQuorum (transition : MembershipTransition) (acknowledgements : Finset NodeId) : Bool :=
  hasMajority transition.oldVoters acknowledgements && hasMajority transition.newVoters acknowledgements

-- Two majorities hold more voters between them than there are, so one voter is in both.
theorem majorities_meet {voters a b : Finset NodeId} (first : hasMajority voters a = true)
    (second : hasMajority voters b = true) :
    ∃ node ∈ voters, node ∈ a ∧ node ∈ b := by
  simp only [hasMajority, decide_eq_true_eq] at first second
  have crowded : voters.card < (voters ∩ a).card + (voters ∩ b).card := by omega
  obtain ⟨node, shared⟩ := Finset.inter_nonempty_of_card_lt_card_add_card
    Finset.inter_subset_left Finset.inter_subset_left crowded
  simp only [Finset.mem_inter] at shared
  exact ⟨node, shared.1.1, shared.1.2, shared.2.2⟩

variable {phase : MembershipPhase} {oldVoters newVoters : Finset NodeId}

theorem transition_voters {transition : MembershipTransition}
    (accepted : MembershipTransition.new phase oldVoters newVoters = .ok transition) :
    transition.oldVoters = oldVoters ∧ transition.newVoters = newVoters := by
  unfold MembershipTransition.new at accepted
  split at accepted
  · cases accepted
  · cases accepted
    exact ⟨rfl, rfl⟩

theorem joint_quorum_majorities {acknowledgements : Finset NodeId}
    {transition : MembershipTransition} (accepted : MembershipTransition.new phase oldVoters newVoters = .ok transition)
    (quorum : transition.jointQuorum acknowledgements = true) :
    hasMajority oldVoters acknowledgements = true ∧ hasMajority newVoters acknowledgements = true := by
  obtain ⟨sameOld, sameNew⟩ := transition_voters accepted
  rw [MembershipTransition.jointQuorum, sameOld, sameNew, Bool.and_eq_true] at quorum
  exact quorum

/-- Any two quorums of neighbouring configurations share a voter. -/
theorem joint_quorums_intersect (old new next a b : Finset NodeId) (joint : MembershipTransition)
    (accepted : MembershipTransition.new .joint old new = .ok joint) (quorum : joint.jointQuorum a = true) :
    (joint.jointQuorum b = true → (∃ node ∈ old, node ∈ a ∧ node ∈ b) ∧ ∃ node ∈ new, node ∈ a ∧ node ∈ b) ∧
    (∀ later, MembershipTransition.new .final new new = .ok later ∨ MembershipTransition.new .joint new next =
      .ok later →
      later.jointQuorum b = true → ∃ node ∈ new, node ∈ a ∧ node ∈ b) := by
  obtain ⟨oldMajority, newMajority⟩ := joint_quorum_majorities accepted quorum
  constructor
  · intro other
    obtain ⟨oldOther, newOther⟩ := joint_quorum_majorities accepted other
    exact ⟨majorities_meet oldMajority oldOther, majorities_meet newMajority newOther⟩
  · intro later follows other
    cases follows with
    | inl final => exact majorities_meet newMajority (joint_quorum_majorities final other).1
    | inr joined => exact majorities_meet newMajority (joint_quorum_majorities joined other).1

def voter (byte : UInt8) (accepted : nodeIdAccepted [byte] = true) : NodeId := ⟨[byte], accepted⟩

def voterA : NodeId := voter 97 (by decide)
def voterB : NodeId := voter 98 (by decide)
def voterC : NodeId := voter 99 (by decide)

-- Growing from {a, b} to {a, b, c}: b and c are no quorum of the old set, a and b are.
theorem joint_quorums_intersect_growing :
    MembershipTransition.jointQuorum ⟨.joint, {voterA, voterB}, {voterA, voterB, voterC}⟩ {voterB, voterC} = false ∧
      ∃ node ∈ ({voterA, voterB, voterC} : Finset NodeId), node ∈ ({voterA, voterB} : Finset NodeId) ∧
        node ∈ ({voterB, voterC} : Finset NodeId) :=
  ⟨by decide, (joint_quorums_intersect {voterA, voterB} {voterA, voterB, voterC} ∅ {voterA, voterB} {voterB, voterC}
    ⟨.joint, {voterA, voterB}, {voterA, voterB, voterC}⟩ rfl (by decide)).2
      ⟨.final, {voterA, voterB, voterC}, {voterA, voterB, voterC}⟩ (.inl rfl) (by decide)⟩

end HeptaBao.Peer
