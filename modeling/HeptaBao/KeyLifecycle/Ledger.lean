import HeptaBao.Exec.Runs
import HeptaBao.KeyLifecycle.State

namespace HeptaBao.KeyLifecycle

open Wire Exec KeyRingState List

inductive KeyLifecycleError where
  | contract (error : KeyLifecycleContractError)
  | journal
  | replayRequiredAfterAppendFailure
  | recoveryNotRequired

inductive KeyLedgerWriteState where
  | writable
  | replayRequired
deriving DecidableEq

-- How the journal answers an append; an unknown outcome may have reached it or not.
inductive AppendOutcome where
  | appended
  | outcomeUnknown (present : Bool)
  | definitelyNotAppended

structure KeyRingLedger where
  journal : List Bytes
  state : KeyRingState
  writeState : KeyLedgerWriteState

def replayFrom (state : KeyRingState) : List Bytes → Checked KeyRingState
  | [] => .ok state
  | payload :: records => do
    let event ← KeyRingEvent.decode payload
    let next ← state.apply event
    replayFrom next records

def replay (records : List Bytes) : Checked KeyRingState := replayFrom .default records

inductive Call where
  | bootstrap (epoch : KeyEpoch) (reason : ReasonCode)
  | stage (epoch : KeyEpoch) (reason : ReasonCode)
  | rotate (previousActive newActive : KeyEpoch) (reason : ReasonCode)
  | retire (epoch : KeyEpoch) (reason : ReasonCode)
  | revoke (epoch : KeyEpoch) (reason : ReasonCode)

def Call.event : Call → Checked KeyRingEvent
  | bootstrap epoch reason => KeyRingEvent.new .bootstrap epoch none reason
  | stage epoch reason => KeyRingEvent.new .stage epoch none reason
  | rotate previousActive newActive reason => KeyRingEvent.new .rotate newActive (some previousActive) reason
  | retire epoch reason => KeyRingEvent.new .retire epoch none reason
  | revoke epoch reason => KeyRingEvent.new .revoke epoch none reason

-- A failed reopen gives the ledger up: it is a step only where the journal can be read.
inductive Step where
  | call (call : Call) (outcome : AppendOutcome)
  | recoverAfterAppendFailure (readable : Bool)
  | reopen

namespace KeyRingLedger

abbrev Answer := Except KeyLifecycleError Unit × KeyRingLedger

def record (ledger : KeyRingLedger) (event : KeyRingEvent) (outcome : AppendOutcome) : Answer :=
  if ledger.writeState = .replayRequired then (.error .replayRequiredAfterAppendFailure, ledger)
  else match ledger.state.apply event with
    | .error flaw => (.error (.contract flaw), ledger)
    | .ok candidate =>
      match event.encode with
      | .error flaw => (.error (.contract flaw), ledger)
      | .ok payload =>
        match outcome with
        | .appended => (.ok (), { ledger with journal := ledger.journal ++ [payload], state := candidate })
        | .outcomeUnknown present =>
          (.error .journal, { ledger with
            journal := if present then ledger.journal ++ [payload] else ledger.journal, writeState := .replayRequired })
        | .definitelyNotAppended => (.error .journal, ledger)

-- Both `open` and the recovery build the state from the journal alone.
def reload (ledger : KeyRingLedger) : Answer :=
  match replay ledger.journal with
  | .error flaw => (.error (.contract flaw), ledger)
  | .ok state => (.ok (), ⟨ledger.journal, state, .writable⟩)

def recoverAfterAppendFailure (ledger : KeyRingLedger) (readable : Bool) : Answer :=
  if ledger.writeState = .writable then (.error .recoveryNotRequired, ledger)
  else if readable then ledger.reload else (.error .journal, ledger)

def reopen (ledger : KeyRingLedger) : Answer :=
  if ledger.writeState = .replayRequired then ledger.recoverAfterAppendFailure true else ledger.reload

def perform (ledger : KeyRingLedger) : Step → Answer
  | .call call outcome =>
    match call.event with
    | .error flaw => (.error (.contract flaw), ledger)
    | .ok event => ledger.record event outcome
  | .recoverAfterAppendFailure readable => ledger.recoverAfterAppendFailure readable
  | .reopen => ledger.reopen

def after (ledger : KeyRingLedger) (step : Step) : KeyRingLedger := (ledger.perform step).2

-- The journal replays to the state or, while a replay is due, one event ahead.
structure Consistent (ledger : KeyRingLedger) (full : KeyRingState) : Prop where
  replays : replay ledger.journal = .ok full
  current : ledger.writeState = .writable → ledger.state = full
  ahead : Advance ledger.state full
  sound : ledger.state.Sound ∧ full.Sound

theorem replay_snoc {records : List Bytes} {full next : KeyRingState} {event : KeyRingEvent} {payload : Bytes}
    (replays : replay records = .ok full) (encoded : event.encode = .ok payload)
    (applied : full.apply event = .ok next) :
    replay (records ++ [payload]) = .ok next := by
  suffices from_any : ∀ state, replayFrom state records = .ok full → replayFrom state (records ++ [payload]) = .ok next from
    from_any _ replays
  clear replays
  induction records with
  | nil =>
    intro state same
    cases same
    simp only [nil_append, replayFrom, decode_encode encoded]
    change (do let next ← full.apply event; Except.ok next) = _
    rw [applied]
    rfl
  | cons first _ ih =>
    intro state replayed
    obtain ⟨decoded, read, replayed⟩ := bind_ok replayed
    obtain ⟨middle, moved, replayed⟩ := bind_ok replayed
    simp only [cons_append, replayFrom, read]
    change (do let next ← state.apply decoded; replayFrom next _) = _
    rw [moved]
    exact ih middle replayed

-- What a step keeps: the ledger stays consistent and its state only moves on.
def Kept (ledger next : KeyRingLedger) : Prop := (∃ full, Consistent next full) ∧ Advance ledger.state next.state

variable {ledger : KeyRingLedger} {full : KeyRingState} (consistent : Consistent ledger full)

include consistent

theorem kept_self : Kept ledger ledger := ⟨⟨full, consistent⟩, advance_refl _⟩

theorem record_kept (event : KeyRingEvent) (outcome : AppendOutcome) : Kept ledger (ledger.record event outcome).2 := by
  have same := kept_self consistent
  rw [record]
  by_cases due : ledger.writeState = .replayRequired
  · rwa [if_pos due]
  rw [if_neg due]
  have current : ledger.state = full := consistent.current (by cases state : ledger.writeState <;> simp_all)
  cases applied : ledger.state.apply event with
  | error => exact same
  | ok candidate =>
    cases encoded : event.encode with
    | error => exact same
    | ok payload =>
      have advance := apply_advance applied
      have sound := (apply_ok applied).2
      have replays := replay_snoc consistent.replays encoded (current ▸ applied)
      cases outcome with
      | appended => exact ⟨⟨candidate, replays, fun _ => rfl, advance_refl _, sound, sound⟩, advance⟩
      | definitelyNotAppended => exact same
      | outcomeUnknown present =>
        cases present with
        | false => exact ⟨⟨full, consistent.replays, nofun, consistent.ahead, consistent.sound⟩, advance_refl _⟩
        | true => exact ⟨⟨candidate, replays, nofun, advance, consistent.sound.1, sound⟩, advance_refl _⟩

theorem reload_kept : Kept ledger ledger.reload.2 := by
  rw [reload, consistent.replays]
  exact ⟨⟨full, consistent.replays, fun _ => rfl, advance_refl _, consistent.sound.2, consistent.sound.2⟩, consistent.ahead⟩

theorem recover_kept (readable : Bool) : Kept ledger (ledger.recoverAfterAppendFailure readable).2 := by
  rw [recoverAfterAppendFailure]
  split
  · exact kept_self consistent
  split
  · exact reload_kept consistent
  · exact kept_self consistent

theorem after_kept (step : Step) : Kept ledger (ledger.after step) := by
  rw [after]
  cases step with
  | call call outcome =>
    rw [perform]
    cases call.event with
    | error => exact kept_self consistent
    | ok event => exact record_kept consistent event outcome
  | recoverAfterAppendFailure readable => exact recover_kept consistent readable
  | reopen =>
    rw [perform, reopen]
    split
    · exact recover_kept consistent true
    · exact reload_kept consistent

theorem run_kept (steps : List Step) : Kept ledger (run after ledger steps) := by
  refine run_preserves after (Kept ledger) ?_ ledger steps (kept_self consistent)
  intro reached step ⟨⟨_, holds⟩, advanced⟩
  obtain ⟨next, more⟩ := after_kept holds step
  exact ⟨next, advanced.trans more⟩

omit consistent

def new : KeyRingLedger := ⟨[], .default, .writable⟩

theorem new_consistent : Consistent new .default := ⟨rfl, fun _ => rfl, advance_refl _, default_sound, default_sound⟩

theorem performed_applies {call : Call} {outcome : AppendOutcome}
    (answered : (ledger.perform (.call call outcome)).1 = .ok ()) :
    ∃ event, call.event = .ok event ∧ ledger.state.transition event =
      .ok (ledger.after (.call call outcome)).state := by
  rw [after]
  rw [perform] at answered ⊢
  cases built : call.event with
  | error => simp [built] at answered
  | ok event =>
    refine ⟨event, rfl, ?_⟩
    simp only [built, record] at answered ⊢
    split at answered
    · cases answered
    next writable =>
      cases applied : ledger.state.apply event with
      | error => simp [applied] at answered
      | ok candidate =>
        cases encoded : event.encode with
        | error => simp [applied, encoded] at answered
        | ok payload =>
          cases outcome with
          | appended => simp [writable, (apply_ok applied).1]
          | outcomeUnknown | definitelyNotAppended => simp [applied, encoded] at answered

theorem new_event {kind : KeyRingEventKind} {epoch : KeyEpoch} {prev : Option KeyEpoch} {reason : ReasonCode}
    {event : KeyRingEvent}
    (built : KeyRingEvent.new kind epoch prev reason = .ok event) : event = ⟨kind, epoch, prev, reason⟩ := by
  obtain ⟨⟨⟩, _, same⟩ := bind_ok built
  cases same
  rfl

end KeyRingLedger

open KeyRingLedger

theorem denied_for_good {state next : KeyRingState} (advanced : Advance state next) (epoch : KeyEpoch)
    (ended : 4 ≤ rank (state.status epoch)) : next.directive epoch = .deny := by
  have later := Nat.le_trans ended (advanced.status epoch)
  rw [directive]
  cases found : next.status epoch with
  | none => rfl
  | some status =>
    rw [found] at later
    cases status with
    | active | decryptOnly => exact absurd later (by decide)
    | staged | retired | revoked => rfl

/-- What holds of the epochs of a ring in every state that a ledger reaches. -/
theorem key_ring_lifecycle (steps more : List Step) : let ledger := run after new steps
    let later := run after ledger more
    (∃ full, replay ledger.journal = .ok full ∧ (ledger.writeState = .writable → ledger.state = full)) ∧
    ((∃ epoch, ledger.state.status epoch ≠ none) →
      ∃ active, ledger.state.active = some active ∧ ∀ epoch, ledger.state.status epoch = some .active ↔ epoch = active) ∧
    (∀ active, ledger.state.active = some active → ledger.state.status active = some .active) ∧
    (∀ epoch reason outcome, (ledger.perform (.call (.bootstrap epoch reason) outcome)).1 = .ok () →
      (ledger.after (.call (.bootstrap epoch reason) outcome)).state.active = some epoch) ∧
    (∀ prev new reason outcome, (ledger.perform (.call (.rotate prev new reason) outcome)).1 = .ok () → ledger.state.active = some prev ∧
      (ledger.after (.call (.rotate prev new reason) outcome)).state.active = some new ∧ prev.get < new.get) ∧
    (∀ active, ledger.state.active = some active → ∃ current, later.state.active = some current ∧ (current = active ∨ active.get < current.get)) ∧
    (∀ epoch, ledger.state.status epoch = some .retired ∨ ledger.state.status epoch = some .revoked → later.state.directive epoch = .deny) ∧
    (∀ epoch, ledger.state.status epoch = some .active → later.state.status epoch ∈
      [some .active, some .decryptOnly, some .retired, some .revoked]) ∧
    (∀ epoch known, ledger.state.status epoch = none → later.state.status epoch ≠ none →
      ledger.state.status known ≠ none → known.get < epoch.get) := by
  intro ledger later
  obtain ⟨⟨full, consistent⟩, _⟩ := run_kept new_consistent steps
  have advanced : Advance ledger.state later.state := (run_kept consistent more).2
  refine ⟨⟨full, consistent.replays, consistent.current⟩, ?_, fun active set => (consistent.sound.1.2 active set active).mpr rfl,
    ?_, ?_, ?_, ?_, ?_, advanced.newest⟩
  · intro ⟨epoch, known⟩
    obtain ⟨active, set⟩ := Option.ne_none_iff_exists'.mp (consistent.sound.1.1 epoch known)
    exact ⟨active, set, consistent.sound.1.2 active set⟩
  · intro epoch reason outcome answered
    obtain ⟨event, built, moved⟩ := performed_applies answered
    cases new_event built
    exact (bootstrap_moves rfl moved).1
  · intro prev new reason outcome answered
    obtain ⟨event, built, moved⟩ := performed_applies answered
    cases new_event built
    obtain ⟨cached, set, larger, _⟩ := rotate_moves rfl rfl moved
    exact ⟨cached, set, larger⟩
  · intro active set
    obtain ⟨current, setLater, le⟩ := advanced.active active set
    exact ⟨current, setLater, (Nat.eq_or_lt_of_le le).imp (fun same => KeyEpoch.ext same.symm) id⟩
  · rintro epoch (retired | revoked)
    · exact denied_for_good advanced epoch (by rw [retired]; decide)
    · exact denied_for_good advanced epoch (by rw [revoked]; decide)
  · intro epoch active
    have moved := advanced.status epoch
    rw [active] at moved
    cases found : later.state.status epoch with
    | none => rw [found] at moved; exact absurd moved (by decide)
    | some status =>
      rw [found] at moved
      cases status with
      | staged => exact absurd moved (by decide)
      | active | decryptOnly | retired | revoked => simp

end HeptaBao.KeyLifecycle
