import HeptaBao.Durable.Service

namespace HeptaBao.Durable

open Wire Std Exec Action

-- What no durable step ever touches, and that only a planned fault stops one.
structure Steady (before after : Machine) (succeeded : Prop) : Prop where
  nonce : after.nonce = before.nonce
  faultless : before.plan = none → succeeded ∧ after.plan = none

theorem durable_ends (m : Machine) : Ends durable m (fun res reached =>
    reached.disk = m.disk ∧ reached.service = m.service ∧ ∃ fault, res = .ok fault ∧
      Steady m reached (fault = none)) := by
  obtain ⟨_, plan, _, _⟩ := m
  cases plan with
  | none => exact ⟨rfl, rfl, none, rfl, rfl, fun _ => ⟨rfl, rfl⟩⟩
  | some point =>
    obtain ⟨index, landed⟩ := point
    cases index with
    | zero => exact ⟨rfl, rfl, some landed, rfl, rfl, nofun⟩
    | succ => exact ⟨rfl, rfl, none, rfl, rfl, nofun⟩

theorem atomic_write_ends (m : Machine) (file : File) {bytes : Bytes} (fits : bytes.length ≤ maxFileBytes) :
    Ends (atomicWrite file bytes) m (fun res reached => reached.service = m.service ∧ Steady m reached (res = .ok ()) ∧
        ((res = .ok () ∧ reached.disk = m.disk.write file bytes) ∨
          ∃ flaw, res = .error flaw ∧ (reached.disk = m.disk ∨ reached.disk = m.disk.write file bytes))) := by
  unfold atomicWrite
  rw [if_neg (by omega)]
  refine ends_bind _ (durable_ends m) (fun flaw reached impossible => ?_) (fun fault reached spent => ?_)
  · obtain ⟨_, _, _, wrong, _⟩ := impossible
    cases wrong
  · obtain ⟨sameDisk, sameService, _, foundEq, steady⟩ := spent
    cases foundEq
    cases fault with
    | none =>
      refine ⟨sameService, ⟨steady.nonce, fun planned => ⟨rfl, (steady.faultless planned).2⟩⟩, .inl ⟨rfl, ?_⟩⟩
      rw [← sameDisk]
      rfl
    | some landed =>
      refine ⟨sameService, ⟨steady.nonce, fun planned => nomatch (steady.faultless planned).1⟩, .inr ⟨.io, rfl, ?_⟩⟩
      rw [← sameDisk]
      by_cases absent : landed = 0
      · subst absent
        exact .inl rfl
      · exact .inr (if_neg absent)

theorem journal_step_ends (m : Machine) (finished : Bytes → Bytes) (torn : Nat → Bytes → Bytes) :
    Ends (journalStep finished torn) m (fun res reached => reached.service = m.service ∧
      Steady m reached (res = .ok ()) ∧
        ((res = .ok () ∧ reached.disk = m.disk.write .journal (finished m.disk.journal)) ∨
          ∃ flaw landed, res = .error flaw ∧ reached.disk = m.disk.write .journal (torn landed m.disk.journal))) := by
  unfold journalStep
  refine ends_bind _ (durable_ends m) (fun flaw reached impossible => ?_) (fun fault reached spent => ?_)
  · obtain ⟨_, _, _, wrong, _⟩ := impossible
    cases wrong
  · obtain ⟨sameDisk, sameService, _, foundEq, steady⟩ := spent
    cases foundEq
    cases fault with
    | none =>
      refine ⟨sameService, ⟨steady.nonce, fun planned => ⟨rfl, (steady.faultless planned).2⟩⟩, .inl ⟨rfl, ?_⟩⟩
      rw [← sameDisk]
      rfl
    | some landed =>
      refine ⟨sameService, ⟨steady.nonce, fun planned => nomatch (steady.faultless planned).1⟩, .inr ⟨.io, landed, rfl, ?_⟩⟩
      rw [← sameDisk]
      rfl

theorem append_frame_ends (m : Machine) (frame : Bytes) (records : m.service.journalSequence + 1 ≤ maxRecords)
    (limit : m.service.journalLimit = maxFileBytes) (room : m.service.journalBytes + frame.length ≤ maxFileBytes) :
    Ends (appendFrame frame) m (fun res reached => Steady m reached (res = .ok ()) ∧
      ((res = .ok () ∧ reached.disk = m.disk.write .journal (m.disk.journal ++ frame) ∧
        reached.service = { m.service with
            journalSequence := m.service.journalSequence + 1
            journalBytes := m.service.journalBytes + frame.length }) ∨
        ∃ flaw landed, res = .error flaw ∧ reached.service = m.service ∧
          reached.disk = m.disk.write .journal (m.disk.journal ++ frame.take landed))) := by
  have countLimit : maxRecords = 1000000 := rfl
  have byteLimit : maxFileBytes = 67108864 := rfl
  unfold appendFrame
  apply ends_read
  refine ends_lift _ (m.service.journalSequence + 1) _ m _ ?_ ?_
  · rw [checked_add_small _ _ (by omega)]
  refine ends_lift _ (m.service.journalBytes + frame.length) _ m _ ?_ ?_
  · rw [checked_add_small _ _ (by omega)]
  rw [if_neg (by omega)]
  refine ends_bind _ (journal_step_ends m _ _) (fun flaw reached stopped => ?_) (fun value reached went => ?_)
  · obtain ⟨sameService, steady, outcome⟩ := stopped
    refine ⟨⟨steady.nonce, fun planned => nomatch (steady.faultless planned).1⟩, .inr ?_⟩
    rcases outcome with ⟨wrong, _⟩ | ⟨_, landed, _, torn⟩
    · cases wrong
    · exact ⟨flaw, landed, rfl, sameService, torn⟩
  · obtain ⟨sameService, steady, outcome⟩ := went
    refine ⟨⟨steady.nonce, fun planned => ⟨rfl, (steady.faultless planned).2⟩⟩, .inl ⟨rfl, ?_, ?_⟩⟩
    · rcases outcome with ⟨_, written⟩ | ⟨_, _, wrong, _⟩
      · exact written
      · cases wrong
    · rw [← sameService]
      rfl

end HeptaBao.Durable
