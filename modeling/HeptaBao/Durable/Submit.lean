import HeptaBao.Durable.Publish

namespace HeptaBao.Durable

open Wire Std Exec Action

theorem submit_eq (env : Env) (req : Request) : req.submit env = (do
    Action.lift req.validate
    execute env (req.binding env) req.value) := by
  cases req <;> rfl

structure Refused (m : Machine) (issued : Option CommitMarker) (res : Except ServiceError MutationOutcome) (reached : Machine) :
    Prop where
  issued : issued = none
  disk : reached.disk = m.disk
  service : reached.service = m.service
  reply : ∀ gen ref, res ≠ .ok (.committed gen ref)

inductive Submitted (env : Env) (inputs : List Bytes) (cap : Nat) (state : Committed) (events : List JournalEvent)
    (req : Request) (m : Machine) (issued : Option CommitMarker) : Except ServiceError MutationOutcome → Machine → Prop
  | refused (res : Except ServiceError MutationOutcome) (reached : Machine) (refused : Refused m issued res reached) :
      Submitted env inputs cap state events req m issued res reached
  | committed (mark : CommitMarker) (reached : Machine) (markerEq : mark = nextMarkerOf env state events.length req)
      (issuedEq : issued = some mark) (valid : req.validate = .ok ()) (fresh : state.ledger[req.key]? = none)
      (legal : Admissible env inputs state events.length mark)
      (live : Live env inputs cap (nextState env state events.length req) (events ++ [.intent mark, .commit mark])
        reached.service reached.disk)
      (resolved : reached.service.unresolved = false)
      (reconciliation : reached.service.reconciliation = m.service.reconciliation.insert mark.recoveryReference (.committed mark.generation)) :
      Submitted env inputs cap state events req m issued
        (.ok (.committed mark.generation mark.recoveryReference)) reached
  | unknown (mark : CommitMarker) (reached : Machine) (markerEq : mark = nextMarkerOf env state events.length req)
      (issuedEq : issued = some mark) (valid : req.validate = .ok ()) (fresh : state.ledger[req.key]? = none)
      (legal : Admissible env inputs state events.length mark) (planned : m.plan ≠ none)
      (interrupted : Interrupted env inputs cap state (nextState env state events.length req) events mark reached.disk)
      (poisoned : reached.service.unresolved = true) (reconciliation : reached.service.reconciliation = m.service.reconciliation) :
      Submitted env inputs cap state events req m issued (.error (.outcomeUnknown mark.recoveryReference)) reached

theorem submit_invalid (env : Env) {req : Request} (m : Machine) {flaw : ServiceError}
    (invalid : req.validate = .error flaw) :
    Ends (req.submit env) m (Refused m (issuedMarker env m.service m.nonce req)) := by
  rw [submit_eq, invalid]
  refine ⟨by simp [issuedMarker, invalid], rfl, rfl, ?_⟩
  intro gen ref wrong
  cases wrong

theorem submit_unresolved (env : Env) (req : Request) {m : Machine} (unresolved : m.service.unresolved = true) :
    Ends (req.submit env) m (Refused m (issuedMarker env m.service m.nonce req)) := by
  cases valid : req.validate with
  | error flaw => exact submit_invalid env m valid
  | ok value =>
    rw [submit_eq]
    refine ends_lift _ value _ m _ valid ?_
    unfold execute
    apply ends_read
    rw [if_pos unresolved]
    refine ⟨by simp [issuedMarker, valid, unresolved], rfl, rfl, ?_⟩
    intro gen ref wrong
    cases wrong

theorem submit_examined {env : Env} {req : Request} {m : Machine}
    {post : Except ServiceError MutationOutcome → Machine → Prop}
    (valid : req.validate = .ok ()) (resolved : m.service.unresolved = false)
    (refusal : ∀ flaw, m.service.examine env m.nonce (req.binding env) req.value = .error flaw → post (.error flaw) m)
    (known : ∀ outcome, m.service.examine env m.nonce (req.binding env) req.value = .ok (.inl outcome) →
      post (.ok outcome) { m with nonce := m.nonce + 4 })
    (fresh : ∀ admission, m.service.examine env m.nonce (req.binding env) req.value = .ok (.inr admission) →
      Ends (settle admission) { m with nonce := m.nonce + 4 } post) : Ends (req.submit env) m post := by
  rw [submit_eq]
  refine ends_lift _ () _ m _ valid ?_
  unfold execute
  apply ends_read
  rw [if_neg (by simp [resolved])]
  cases examined : m.service.examine env m.nonce (req.binding env) req.value with
  | error flaw => exact refusal flaw examined
  | ok found =>
    refine ends_lift _ found _ m _ rfl ?_
    apply ends_modify
    cases found with
    | inl outcome => exact known outcome examined
    | inr admission => exact fresh admission examined

variable (env : Env) (inputs : List Bytes) (laws : BarrierLaws env) (free : CollisionFree env inputs) (cap : Nat)
  (state : Committed) (events : List JournalEvent) (req : Request) (m : Machine)
  (live : Live env inputs cap state events m.service m.disk)

include live

theorem submit_known (valid : req.validate = .ok ()) (resolved : m.service.unresolved = false) (record : LedgerRecord)
    (found : state.ledger[req.key]? = some record) :
    Ends (req.submit env) m (fun res reached => reached.disk = m.disk ∧ reached.service = m.service ∧
      res = if record.bindingDigest = (req.binding env).digest env
        then .ok (.duplicate record.generation record.recoveryReference) else .error .requestBindingConflict) := by
  have lookup : m.service.ledger[(req.binding env).key]? = some record := by rw [live.ledger, binding_key, found]
  have examined : m.service.examine env m.nonce (req.binding env) req.value =
      if record.bindingDigest ≠ (req.binding env).digest env then .error .requestBindingConflict
      else .ok (.inl (.duplicate record.generation record.recoveryReference)) := by simp only [Service.examine, lookup]
  by_cases same : record.bindingDigest = (req.binding env).digest env
  · rw [if_neg (by simp [same])] at examined
    refine submit_examined valid resolved ?_ ?_ ?_
    · intro flaw wrong
      rw [examined] at wrong
      cases wrong
    · intro outcome known
      rw [examined] at known
      cases known
      exact ⟨rfl, rfl, by rw [if_pos same]⟩
    · intro admission wrong
      rw [examined] at wrong
      cases wrong
  · rw [if_pos same] at examined
    refine submit_examined valid resolved ?_ ?_ ?_
    · intro flaw known
      rw [examined] at known
      cases known
      exact ⟨rfl, rfl, by rw [if_neg same]⟩
    · intro outcome wrong
      rw [examined] at wrong
      cases wrong
    · intro admission wrong
      rw [examined] at wrong
      cases wrong

include laws free

theorem settle_ends (admission : Admission) (publication : Publication env inputs cap state events req admission m)
    (valid : req.validate = .ok ()) (fresh : state.ledger[req.key]? = none) :
    Ends (settle admission) m (Submitted env inputs cap state events req m (some admission.marker)) := by
  have markerEq := publication.prepared.marker
  have legal := publication.admissible
  have started : Publication env inputs cap state events req admission
      { m with service := { m.service with unresolved := true } } :=
    ⟨⟨live.snapshot, live.ledger, live.sequence, live.bytes, live.limit, live.retained, live.settled, live.stored, live.within⟩,
      publication.prepared, publication.admissible, publication.entriesOk, publication.within⟩
  unfold settle
  apply ends_modify
  refine ends_bind _ (ends_attempt (publish_ends env inputs laws free cap state events req admission
    _ started)) (fun flaw reached wrong => ?_) (fun value reached ended => ?_)
  · obtain ⟨_, impossible, _⟩ := wrong
    cases impossible
  · obtain ⟨_, same, outcome⟩ := ended
    cases same
    rcases outcome with ⟨rfl, next, kept⟩ | stopped
    · exact .committed admission.marker _ markerEq rfl valid fresh legal
        ⟨next.snapshot, next.ledger, next.sequence, next.bytes, next.limit, next.retained, next.settled, next.stored, next.within⟩
        rfl (by
          change reached.service.reconciliation.insert _ _ = _
          rw [kept.reconciliation])
    · obtain ⟨_, rfl⟩ := stopped.failed
      exact .unknown admission.marker reached markerEq rfl valid fresh legal stopped.planned stopped.interrupted
        stopped.kept.unresolved stopped.kept.reconciliation

theorem submit_ends (resolved : m.service.unresolved = false) (validCap : validateCapacity cap = .ok ())
    (hashed : hashedBy env m.service req ⊆ inputs) : Ends (req.submit env) m
      (Submitted env inputs cap state events req m (issuedMarker env m.service m.nonce req)) := by
  cases valid : req.validate with
  | error flaw => exact .refused _ _ (submit_invalid env m valid)
  | ok value =>
    have capacityBound : cap ≤ maxRecords := by
      unfold validateCapacity at validCap
      split at validCap
      · cases validCap
      · omega
    refine submit_examined valid resolved ?_ ?_ ?_
    · intro flaw examined
      refine .refused _ _ ⟨by simp [issuedMarker, valid, resolved, examined], rfl, rfl, ?_⟩
      intro gen ref wrong
      cases wrong
    · intro outcome examined
      refine .refused _ _ ⟨by simp [issuedMarker, valid, resolved, examined], rfl, rfl, ?_⟩
      intro gen ref wrong
      cases wrong
      unfold Service.examine at examined
      split at examined
      · split at examined <;> cases examined
      · split at examined
        · cases examined
        · obtain ⟨_, _, wrong⟩ := bind_ok examined
          cases wrong
    · intro admission examined
      have issuedEq : issuedMarker env m.service m.nonce req = some admission.marker := by
        simp [issuedMarker, valid, resolved, examined]
      rw [issuedEq]
      unfold Service.examine at examined
      split at examined
      · split at examined <;> cases examined
      · rename_i absent
        split at examined
        · cases examined
        · rename_i below
          obtain ⟨found, preparedEq, same⟩ := bind_ok examined
          cases same
          have ok := settled_ok free live.settled
          have size := ok.ledger.size
          rw [live.retained, live.ledger] at below
          have fresh : state.ledger[req.key]? = none := by rw [← live.ledger, ← binding_key env]; exact absent
          have prepared := prepare_ok live preparedEq
          have legal := next_admissible free cap state events m.service m.disk req live valid fresh
            (by omega) hashed prepared.records
          have entriesOk := apply_entries_ok valid ok.entries
          have moved : Live env inputs cap state events m.service { m with nonce := m.nonce + 4 }.disk := live
          have ended := settle_ends env inputs laws free cap state events req { m with nonce := m.nonce + 4 } moved admission
            ⟨moved, prepared, by rw [prepared.marker]; exact legal, by rw [prepared.marker]; exact entriesOk,
              by rw [prepared.marker]; simp only [nextMarkerOf]; omega⟩ valid fresh
          refine ends_weaken ended ?_
          intro res reached outcome
          cases outcome with
          | refused _ _ refused => exact .refused _ _ ⟨refused.issued, refused.disk, refused.service, refused.reply⟩
          | committed mark _ markerEq issuedEq valid fresh legal live resolved reconciliation =>
            exact .committed mark reached markerEq issuedEq valid fresh legal live resolved reconciliation
          | unknown mark _ markerEq issuedEq valid fresh legal planned interrupted poisoned reconciliation =>
            exact .unknown mark reached markerEq issuedEq valid fresh legal planned interrupted poisoned reconciliation

end HeptaBao.Durable
