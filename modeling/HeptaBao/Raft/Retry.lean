import HeptaBao.Raft.JsonForm

namespace HeptaBao.Raft

open Wire Durable Std

variable (client : Str) (serial : Nat)

def Entry.repeats (entry : Entry) : Bool :=
  match entry.payload with
  | .normal data => data.client = client && data.serial = serial
  | _ => false

-- The log with every occurrence of (client, serial) but the first made blank.
def blankRepeats (client : Str) (serial : Nat) : Bool → List Entry → List Entry
  | _, [] => []
  | seen, entry :: log =>
    if entry.repeats client serial then
      (if seen then { entry with payload := .blank } else entry) :: blankRepeats client serial true log
    else entry :: blankRepeats client serial seen log

-- The same on the client's own writes.
def dropRepeats (serial : Nat) : Bool → List ClientRequest → List ClientRequest
  | _, [] => []
  | seen, write :: writes =>
    if write.serial = serial then
      if seen then dropRepeats serial true writes else write :: dropRepeats serial true writes
    else write :: dropRepeats serial seen writes

theorem writes_of_cons (entry : Entry) (log : List Entry) :
    writesOf client (entry :: log) = writesOf client [entry] ++ writesOf client log :=
  writes_of_append client [entry] log

theorem writes_of_blank_repeats (seen : Bool) (log : List Entry) :
    writesOf client (blankRepeats client serial seen log) = dropRepeats serial seen (writesOf client log) := by
  induction log generalizing seen with
  | nil => rfl
  | cons entry _ ih =>
    obtain ⟨_, payload⟩ := entry
    cases payload with
    | blank | membership =>
      rw [writes_of_cons, blankRepeats, if_neg (by simp [Entry.repeats]), writes_of_cons, ih]
      rfl
    | normal data =>
      by_cases own : data.client = client
      · by_cases again : data.serial = serial
        · rw [blankRepeats, if_pos (by simp [Entry.repeats, own, again]), writes_of_cons, ih]
          cases seen <;> simp [writesOf, own, dropRepeats, again]
        · rw [blankRepeats, if_neg (by simp [Entry.repeats, again]), writes_of_cons, ih]
          simp [writesOf, own, dropRepeats, again]
      · rw [blankRepeats, if_neg (by simp [Entry.repeats, own]), writes_of_cons, ih]
        simp [writesOf, own]

theorem writes_of_other (other : Str) (serial : Nat) (seen : Bool) (log : List Entry) (apart : other ≠ client) :
    writesOf other (blankRepeats client serial seen log) = writesOf other log := by
  induction log generalizing seen with
  | nil => rfl
  | cons entry log ih =>
    rw [blankRepeats]
    by_cases again : entry.repeats client serial = true
    · rw [if_pos again, writes_of_cons, writes_of_cons other entry, ih]
      obtain ⟨_, payload⟩ := entry
      cases payload with
      | blank | membership => cases again
      | normal data =>
        have own : data.client = client := by
          simp only [Entry.repeats, Bool.and_eq_true, decide_eq_true_eq] at again
          exact again.1
        cases seen <;> simp [writesOf, own, apart.symm]
    · rw [if_neg again, writes_of_cons other entry (blankRepeats client serial seen log), writes_of_cons other entry log, ih]

theorem membership_blank_repeats (seen : Bool) (log : List Entry) (state other : MemStoreStateMachine)
    (same : state.lastMembership = other.lastMembership) :
    (state.applyLog (blankRepeats client serial seen log)).lastMembership = (other.applyLog log).lastMembership := by
  induction log generalizing seen state other with
  | nil => exact same
  | cons entry _ ih =>
    rw [blankRepeats]
    by_cases again : entry.repeats client serial = true
    · rw [if_pos again]
      refine ih true _ _ ?_
      obtain ⟨logId, payload⟩ := entry
      cases payload with
      | blank | membership => cases again
      | normal => cases seen <;> exact same
    · rw [if_neg again]
      refine ih seen _ _ ?_
      obtain ⟨_, payload⟩ := entry
      cases payload with
      | blank | normal => exact same
      | membership => rfl

-- Equal up to the last applied log id.
structure SameState (a b : MemStoreStateMachine) : Prop where
  status : a.clientStatus = b.clientStatus
  membership : a.lastMembership = b.lastMembership

/-- When repeating a write leaves the state of one that was made once. -/
theorem retry_idempotent_iff (client : Str) (serial : Nat) (log : List Entry) :
    SameState (MemStoreStateMachine.default.applyLog (blankRepeats client serial false log))
    (MemStoreStateMachine.default.applyLog log) ↔
      (dropRepeats serial false (writesOf client log)).getLast?.map (·.status) = (writesOf client log).getLast?.map
        (·.status) := by
  have fresh : ∀ name : Str, MemStoreStateMachine.default.clientStatus[name]? = none := fun name => by simp [MemStoreStateMachine.default]
  constructor
  · intro same
    have here := congrArg (fun map : ExtTreeMap Str Str => map[client]?) same.status
    simp only [client_status_apply_log, fresh, Option.or_none, writes_of_blank_repeats] at here
    exact here
  · intro last
    refine ⟨?_, membership_blank_repeats client serial false log _ _ rfl⟩
    apply ExtTreeMap.ext_getElem?
    intro name
    rw [client_status_apply_log, client_status_apply_log]
    by_cases own : name = client
    · rw [own, writes_of_blank_repeats, last]
    · rw [writes_of_other client name serial false log own]

-- A retried write committed behind another one brings back the older status.
theorem retry_overwrites_newer : ∃ client serial log,
    ¬ SameState (MemStoreStateMachine.default.applyLog (blankRepeats client serial false log))
      (MemStoreStateMachine.default.applyLog log) := by
  refine ⟨str "client", 1, [sampleEntry 1 (str "a"), sampleEntry 2 (str "b"), ⟨⟨1, 1, 3⟩, .normal ⟨str "client", 1, str "a"⟩⟩], ?_⟩
  intro same
  have here := congrArg (fun map : ExtTreeMap Str Str => map[str "client"]?) same.status
  simp only [client_status_apply_log] at here
  exact absurd here (by decide +kernel)

end HeptaBao.Raft
