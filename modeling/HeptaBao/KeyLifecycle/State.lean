import HeptaBao.Durable.Validate
import HeptaBao.Wire.Inversion
import HeptaBao.Wire.SortedMap

namespace HeptaBao.KeyLifecycle

open Std Wire Wire.Reader Durable List ExtTreeMap

inductive KeyLifecycleContractError where
  | invalidReasonCode
  | unsupportedEventVersion
  | malformedEvent
  | trailingEventBytes
  | invalidEventShape
  | alreadyBootstrapped
  | notBootstrapped
  | invalidEpochOrder
  | invalidTransition
  | activeRevocationForbidden
  | invariantViolation
deriving DecidableEq

abbrev Checked := Except KeyLifecycleContractError

def eventMagic : Bytes := str "HEPTABAO-KEY-RING-EVENT-V1" ++ [0]
def eventVersion : Nat := 1
def maxReasonCodeBytes : Nat := 96

def reasonByte (byte : UInt8) : Bool :=
  (97 ≤ byte && byte ≤ 122) || (48 ≤ byte && byte ≤ 57) || byte == 45 || byte == 95

def reasonAccepted (value : Str) : Bool :=
  value ≠ [] && value.length ≤ maxReasonCodeBytes && value.all (· < 128) && value.all reasonByte

@[ext]
structure ReasonCode where
  value : Str
  accepted : reasonAccepted value = true
deriving DecidableEq

def ReasonCode.new (value : Str) : Checked ReasonCode :=
  if accepted : reasonAccepted value = true then .ok ⟨value, accepted⟩ else .error .invalidReasonCode

-- A u64 other than zero.
@[ext]
structure KeyEpoch where
  get : Nat
  nonzero : get ≠ 0
  fits : get < 256 ^ 8
deriving DecidableEq

def KeyEpoch.new (value : Nat) : Checked KeyEpoch :=
  if valid : value ≠ 0 ∧ value < 256 ^ 8 then .ok ⟨value, valid.1, valid.2⟩ else .error .malformedEvent

inductive KeyStatus where
  | staged
  | active
  | decryptOnly
  | retired
  | revoked
deriving DecidableEq

inductive KeyUseDirective where
  | sealAndOpen
  | openOnly
  | deny
deriving DecidableEq

inductive KeyRingEventKind where
  | bootstrap
  | stage
  | rotate
  | retire
  | revoke
deriving DecidableEq

def KeyRingEventKind.code : KeyRingEventKind → Nat
  | bootstrap => 1
  | stage => 2
  | rotate => 3
  | retire => 4
  | revoke => 5

def KeyRingEventKind.fromCode : Nat → Checked KeyRingEventKind
  | 1 => .ok .bootstrap
  | 2 => .ok .stage
  | 3 => .ok .rotate
  | 4 => .ok .retire
  | 5 => .ok .revoke
  | _ => .error .malformedEvent

structure KeyRingEvent where
  kind : KeyRingEventKind
  epoch : KeyEpoch
  previousActive : Option KeyEpoch
  reason : ReasonCode
deriving DecidableEq

def validateEventShape (event : KeyRingEvent) : Checked Unit :=
  if decide (event.kind = .rotate) ≠ event.previousActive.isSome then .error .invalidEventShape
  else if event.previousActive = some event.epoch then .error .invalidEventShape
  else .ok ()

def KeyRingEvent.new (kind : KeyRingEventKind) (epoch : KeyEpoch) (previousActive : Option KeyEpoch)
    (reason : ReasonCode) :
    Checked KeyRingEvent := do
  validateEventShape ⟨kind, epoch, previousActive, reason⟩
  return ⟨kind, epoch, previousActive, reason⟩

def encodePrevious : Option KeyEpoch → Bytes
  | none => []
  | some epoch => big 8 epoch.get

-- A reason has at most 96 bytes: neither its length nor the payload's bound can fail.
def KeyRingEvent.encode (event : KeyRingEvent) : Checked Bytes := do
  validateEventShape event
  return eventMagic ++ (big 2 eventVersion ++ (big 1 event.kind.code ++ (big 1 event.previousActive.isSome.toNat ++
    (big 8 event.epoch.get ++ (encodePrevious event.previousActive ++ (big 2 event.reason.value.length ++ event.reason.value))))))

def takeEpoch : Reader KeyLifecycleContractError KeyEpoch := do
  let value ← bigEndian .malformedEvent 8
  lift (KeyEpoch.new value)

def takePrevious (hasPrevious : Nat) : Reader KeyLifecycleContractError (Option KeyEpoch) :=
  if hasPrevious = 1 then do
    let epoch ← takeEpoch
    return some epoch
  else pure none

def takeEvent : Reader KeyLifecycleContractError (KeyRingEventKind × KeyEpoch × Option KeyEpoch × Str) := do
  let magic ← exact .malformedEvent eventMagic.length
  lift (if magic ≠ eventMagic then .error .malformedEvent else .ok ())
  let version ← bigEndian .malformedEvent 2
  lift (if version ≠ eventVersion then .error .unsupportedEventVersion else .ok ())
  let code ← bigEndian .malformedEvent 1
  let kind ← lift (KeyRingEventKind.fromCode code)
  let hasPrevious ← bigEndian .malformedEvent 1
  lift (if 1 < hasPrevious then .error .malformedEvent else .ok ())
  let epoch ← takeEpoch
  let previousActive ← takePrevious hasPrevious
  let reasonLen ← bigEndian .malformedEvent 2
  let reason ← exact .malformedEvent reasonLen
  lift (if utf8Valid reason = true then .ok (kind, epoch, previousActive, reason) else .error .malformedEvent)

def KeyRingEvent.decode (bytes : Bytes) : Checked KeyRingEvent := do
  let (kind, epoch, previousActive, text) ← complete .trailingEventBytes takeEvent bytes
  let reason ← ReasonCode.new text
  KeyRingEvent.new kind epoch previousActive reason

theorem take_epoch_reads (epoch : KeyEpoch) : Reads takeEpoch (big 8 epoch.get) epoch := by
  rw [← append_nil (big 8 epoch.get)]
  exact reads_bind (reads_big _ 8 _ epoch.fits) (reads_lift _ _ (dif_pos ⟨epoch.nonzero, epoch.fits⟩))

theorem take_previous_reads (prev : Option KeyEpoch) : Reads (takePrevious prev.isSome.toNat)
    (encodePrevious prev) prev := by
  cases prev with
  | none => exact reads_pure none
  | some epoch => exact reads_map takeEpoch some _ epoch (take_epoch_reads epoch)

theorem ReasonCode.facts (reason : ReasonCode) : reason.value.length ≤ 96 ∧ utf8Valid reason.value = true := by
  have accepted := reason.accepted
  simp only [reasonAccepted, Bool.and_eq_true, decide_eq_true_eq] at accepted
  exact ⟨accepted.1.1.2, ascii_utf8 _ accepted.1.2⟩

theorem decode_encode {event : KeyRingEvent} {payload : Bytes} (encoded : event.encode = .ok payload) :
    KeyRingEvent.decode payload = .ok event := by
  obtain ⟨⟨⟩, shape, written⟩ := bind_ok encoded
  cases written
  obtain ⟨short, text⟩ := event.reason.facts
  have flag : event.previousActive.isSome.toNat < 2 := Bool.toNat_lt _
  have code : event.kind.code < 256 ^ 1 ∧ KeyRingEventKind.fromCode event.kind.code = .ok event.kind := by
    cases event.kind <;> exact ⟨by decide, rfl⟩
  have read : Reads takeEvent _ (event.kind, event.epoch, event.previousActive, event.reason.value) :=
    reads_bind (reads_exact _ _ eventMagic rfl) <| reads_check (if_neg (not_not.mpr rfl)) <|
    reads_bind (reads_big _ 2 eventVersion (by decide)) <| reads_check (if_neg (not_not.mpr rfl)) <|
    reads_bind (reads_big _ 1 _ code.1) <| reads_check code.2 <|
    reads_bind (reads_big _ 1 event.previousActive.isSome.toNat (by omega)) <| reads_check (if_neg (by omega)) <|
    reads_bind (take_epoch_reads event.epoch) <| reads_bind (take_previous_reads event.previousActive) <|
    reads_bind (reads_big _ 2 event.reason.value.length (by omega)) <|
    reads_bind (reads_exact _ _ event.reason.value rfl) (reads_lift _ _ (if_pos text))
  rw [append_nil] at read
  rw [KeyRingEvent.decode, complete_reads _ _ _ _ read]
  change (do let reason ← ReasonCode.new event.reason.value; KeyRingEvent.new event.kind event.epoch event.previousActive reason) = _
  rw [ReasonCode.new, dif_pos event.reason.accepted]
  change (do validateEventShape event; return event) = _
  rw [shape]
  rfl

structure KeyRingState where
  epochs : ExtTreeMap Nat KeyStatus
  active : Option KeyEpoch

def KeyRingState.default : KeyRingState := ⟨∅, none⟩

namespace KeyRingState

variable (state : KeyRingState) (epoch : KeyEpoch)

def status : Option KeyStatus := state.epochs[epoch.get]?

def directive : KeyUseDirective :=
  match state.status epoch with
  | some .active => .sealAndOpen
  | some .decryptOnly => .openOnly
  | some .staged | some .retired | some .revoked | none => .deny

def insert (state : KeyRingState) (epoch : KeyEpoch) (status : KeyStatus) : KeyRingState :=
  { state with epochs := state.epochs.insert epoch.get status }

def validateInvariants : Checked Unit :=
  match state.active, (state.epochs.toList.filter (·.2 = .active)).map (·.1) with
  | none, [] => if state.epochs.isEmpty then .ok () else .error .invariantViolation
  | some expected, [actual] => if expected.get = actual then .ok () else .error .invariantViolation
  | _, _ => .error .invariantViolation

def transition (event : KeyRingEvent) : Checked KeyRingState :=
  match event.kind with
  | .bootstrap =>
    if ¬state.epochs.isEmpty ∨ state.active.isSome then .error .alreadyBootstrapped
    else .ok { state.insert event.epoch .active with active := some event.epoch }
  | .stage =>
    match state.active with
    | none => .error .notBootstrapped
    | some active =>
      if state.epochs.contains event.epoch.get ∨ event.epoch.get ≤ active.get ∨ ∃ latest ∈ state.epochs.maxKey?, event.epoch.get ≤ latest then
        .error .invalidEpochOrder
      else .ok (state.insert event.epoch .staged)
  | .rotate =>
    match event.previousActive with
    | none => .error .invalidEventShape
    | some prev =>
      if state.active ≠ some prev ∨ state.status prev ≠ some .active ∨ state.status event.epoch ≠ some .staged ∨
          event.epoch.get ≤ prev.get then .error .invalidTransition
      else .ok { (state.insert prev .decryptOnly).insert event.epoch .active with active := some event.epoch }
  | .retire =>
    if state.status event.epoch ≠ some .decryptOnly then .error .invalidTransition
    else .ok (state.insert event.epoch .retired)
  | .revoke =>
    if state.active = some event.epoch then .error .activeRevocationForbidden
    else match state.status event.epoch with
      | some .staged | some .decryptOnly | some .retired => .ok (state.insert event.epoch .revoked)
      | some .active | some .revoked | none => .error .invalidTransition

def apply (event : KeyRingEvent) : Checked KeyRingState := do
  validateEventShape event
  let next ← state.transition event
  next.validateInvariants
  return next

theorem status_insert (other : KeyEpoch) (status : KeyStatus) :
    (state.insert epoch status).status other = if epoch = other then some status else state.status other := by
  rw [KeyRingState.status, insert, lookup_insert]
  simp only [KeyEpoch.ext_iff, KeyRingState.status]

-- The code's own check: a ring in use has one active epoch, the one it caches.
def Sound : Prop :=
  (∀ epoch, state.status epoch ≠ none → state.active ≠ none) ∧
    ∀ active, state.active = some active → ∀ epoch, state.status epoch = some .active ↔ epoch = active

theorem default_sound : KeyRingState.default.Sound := ⟨fun _ known => absurd getElem?_empty known, fun _ => nofun⟩

theorem validated_sound {state : KeyRingState} (checked : state.validateInvariants = .ok ()) : state.Sound := by
  have listed (epoch : KeyEpoch) : state.status epoch = some .active ↔ epoch.get ∈ (state.epochs.toList.filter (·.2 = .active)).map (·.1) := by
    simp [status, mem_toList_iff_getElem?_eq_some]
  rw [validateInvariants] at checked
  split at checked
  next unset _ =>
    refine ⟨fun epoch known => ?_, fun active set => by rw [unset] at set; cases set⟩
    by_cases empty : state.epochs.isEmpty
    · rw [KeyRingState.status, ExtTreeMap.isEmpty_iff.mp empty] at known
      exact absurd getElem?_empty known
    · rw [if_neg empty] at checked
      cases checked
  next expected actual set single =>
    refine ⟨fun _ _ => by simp [set], fun active same epoch => ?_⟩
    by_cases equal : expected.get = actual
    · rw [set] at same
      cases same
      rw [listed, single, mem_singleton, ← equal, KeyEpoch.ext_iff]
    · rw [if_neg equal] at checked
      cases checked
  next => cases checked

-- How far an epoch is through its life.
def rank : Option KeyStatus → Nat
  | none => 0
  | some .staged => 1
  | some .active => 2
  | some .decryptOnly => 3
  | some .retired => 4
  | some .revoked => 5

structure Advance (state next : KeyRingState) : Prop where
  status : ∀ epoch, rank (state.status epoch) ≤ rank (next.status epoch)
  newest : ∀ epoch known, state.status epoch = none → next.status epoch ≠ none → state.status known ≠ none →
    known.get < epoch.get
  active : ∀ active, state.active = some active → ∃ later, next.active = some later ∧ active.get ≤ later.get

theorem advance_refl : Advance state state :=
  ⟨fun _ => Nat.le_refl _, fun _ _ unknown known => absurd unknown known, fun active set => ⟨active, set, Nat.le_refl _⟩⟩

theorem rank_zero {status : Option KeyStatus} : rank status = 0 ↔ status = none := by
  cases status with
  | none => simp [rank]
  | some status => cases status <;> simp [rank]

theorem Advance.trans {first second third : KeyRingState} (one : Advance first second) (two : Advance second third) :
    Advance first third := by
  refine ⟨fun epoch => Nat.le_trans (one.status epoch) (two.status epoch), fun epoch known fresh found old => ?_, fun active set => ?_⟩
  · by_cases between : second.status epoch = none
    · refine two.newest epoch known between found fun lost => old (rank_zero.mp ?_)
      have kept := one.status known
      rw [lost] at kept
      exact Nat.le_zero.mp kept
    · exact one.newest epoch known fresh between old
  · obtain ⟨middle, setMiddle, le⟩ := one.active active set
    obtain ⟨last, setLast, le'⟩ := two.active middle setMiddle
    exact ⟨last, setLast, Nat.le_trans le le'⟩

theorem advance_known {state : KeyRingState} {epoch : KeyEpoch} {new : KeyStatus} (known : state.status epoch ≠ none)
    (later : rank (state.status epoch) ≤ rank (some new)) : Advance state (state.insert epoch new) := by
  refine ⟨fun other => ?_, fun other _ unknown found => ?_, fun active set => ⟨active, set, Nat.le_refl _⟩⟩
  · rw [status_insert]
    by_cases same : epoch = other
    · rwa [if_pos same, ← same]
    · rw [if_neg same]
  · rw [status_insert] at found
    by_cases same : epoch = other
    · exact absurd (same ▸ unknown) known
    · rw [if_neg same] at found
      exact absurd unknown found

variable {state next : KeyRingState} {event : KeyRingEvent}

theorem apply_ok (applied : state.apply event = .ok next) : state.transition event = .ok next ∧ next.Sound := by
  obtain ⟨⟨⟩, _, rest⟩ := bind_ok applied
  obtain ⟨moved, transitioned, rest⟩ := bind_ok rest
  obtain ⟨⟨⟩, checked, same⟩ := bind_ok rest
  cases same
  exact ⟨transitioned, validated_sound checked⟩

theorem bootstrap_moves (kind : event.kind = .bootstrap)
    (moved : state.transition event = .ok next) : next.active = some event.epoch ∧ Advance state next := by
  simp only [transition, kind] at moved
  split at moved
  · cases moved
  next fresh =>
    cases moved
    have empty : state.epochs = ∅ := ExtTreeMap.isEmpty_iff.mp (not_not.mp fun filled => fresh (.inl filled))
    have none_known (epoch : KeyEpoch) : state.status epoch = none := by
      rw [KeyRingState.status, empty, getElem?_empty]
    refine ⟨rfl, fun epoch => by rw [none_known]; exact Nat.zero_le _, fun _ known _ _ old => absurd (none_known known) old,
      fun active set => absurd (.inr ?_) fresh⟩
    rw [set]
    rfl

theorem stage_moves (kind : event.kind = .stage) (moved : state.transition event = .ok next) : Advance state next := by
  simp only [transition, kind] at moved
  split at moved
  · cases moved
  split at moved
  · cases moved
  next fresh =>
    cases moved
    refine ⟨fun epoch => ?_, fun epoch known unknown found old => ?_, fun active set => ⟨active, set, Nat.le_refl _⟩⟩
    · rw [status_insert]
      by_cases same : event.epoch = epoch
      · have absent : state.status epoch = none := by
          by_contra listed
          refine fresh (.inl ?_)
          rw [contains_eq_isSome_getElem?, same]
          exact Option.isSome_iff_ne_none.mpr listed
        rw [absent]
        exact Nat.zero_le _
      · rw [if_neg same]
    · rw [status_insert] at found
      by_cases same : event.epoch = epoch
      · have member : known.get ∈ state.epochs := mem_iff_isSome_getElem?.mpr (Option.isSome_iff_ne_none.mpr old)
        cases highest : state.epochs.maxKey? with
        | none => rw [maxKey?_eq_none_iff.mp highest] at member; exact absurd member not_mem_empty
        | some latest =>
          have below := (maxKey?_eq_some_iff_mem_and_forall.mp highest).2 _ member
          rw [Nat.isLE_compare] at below
          rw [← same]
          exact Nat.lt_of_le_of_lt below (Nat.not_le.mp fun le => fresh (.inr (.inr ⟨latest, highest, le⟩)))
      · rw [if_neg same] at found
        exact absurd unknown found

theorem rotate_moves {prev : KeyEpoch} (kind : event.kind = .rotate)
    (replaced : event.previousActive = some prev) (moved : state.transition event = .ok next) :
    state.active = some prev ∧ next.active = some event.epoch ∧ prev.get < event.epoch.get ∧ Advance state next := by
  simp only [transition, kind, replaced] at moved
  split at moved
  · cases moved
  next allowed =>
    cases moved
    simp only [not_or, not_not, Nat.not_le] at allowed
    obtain ⟨cached, old, staged, larger⟩ := allowed
    have apart : prev ≠ event.epoch := fun same => by rw [same] at larger; exact Nat.lt_irrefl _ larger
    have first : Advance state (state.insert prev .decryptOnly) := advance_known (by simp [old]) (by rw [old]; decide)
    have kept : (state.insert prev .decryptOnly).status event.epoch = some .staged := by
      rw [status_insert, if_neg apart, staged]
    have second : Advance _ ((state.insert prev .decryptOnly).insert event.epoch .active) := advance_known (by simp [kept]) (by rw [kept]; decide)
    have both := first.trans second
    refine ⟨cached, rfl, larger, both.status, both.newest, fun active set => ⟨event.epoch, rfl, ?_⟩⟩
    cases cached.symm.trans set
    exact Nat.le_of_lt larger

theorem apply_advance (applied : state.apply event = .ok next) : Advance state next := by
  have moved := (apply_ok applied).1
  cases kind : event.kind with
  | bootstrap => exact (bootstrap_moves kind moved).2
  | stage => exact stage_moves kind moved
  | rotate =>
    cases replaced : event.previousActive with
    | none => simp [transition, kind, replaced] at moved
    | some prev => exact (rotate_moves kind replaced moved).2.2.2
  | retire =>
    simp only [transition, kind] at moved
    split at moved
    · cases moved
    next allowed =>
      cases moved
      rw [not_not] at allowed
      exact advance_known (by simp [allowed]) (by rw [allowed]; decide)
  | revoke =>
    simp only [transition, kind] at moved
    split at moved
    · cases moved
    cases found : state.status event.epoch with
    | none => simp [found] at moved
    | some old =>
      rw [found] at moved
      cases old with
      | active | revoked => cases moved
      | staged | decryptOnly | retired =>
        cases moved
        exact advance_known (by simp [found]) (by rw [found]; decide)

end KeyRingState

end HeptaBao.KeyLifecycle
