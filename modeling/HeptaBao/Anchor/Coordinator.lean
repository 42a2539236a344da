import HeptaBao.Contracts.Types

namespace HeptaBao.Anchor

open Wire Durable Contracts

structure Observation where
  storeDomain : Identity
  generation : Counter
  stateDigest : Mark
  journalDomain : Identity
  journalTail : Option JournalTail
  keyEpoch : Counter
deriving DecidableEq

def Observation.journalPosition (observation : Observation) : Nat := (observation.journalTail.map (·.sequence.value)).getD 0

structure Checkpoint where
  revision : Counter
  previousDigest : Option Mark
  authenticatorId : Identity
  observation : Observation
  digest : Mark
deriving DecidableEq

inductive ContractError where
  | revisionOverflow
  | lengthOverflow
  | domainMismatch
  | rollbackDetected
  | divergentObservation
  | keyEpochRegression
  | checkpointAlreadyCurrent
  | invalidCheckpointShape
  | authenticatorMismatch
  | checkpointAuthenticationFailed
  | receiptMismatch
  | invariantViolation
deriving DecidableEq

inductive CoordinatorError where
  | contract (error : ContractError)
  | anchor
  | authenticator
deriving DecidableEq

inductive Disposition where
  | unanchored
  | exact
  | advanceRequired
deriving DecidableEq

def compareObservation (anchored observed : Observation) : Except ContractError Disposition :=
  if anchored.storeDomain ≠ observed.storeDomain ∨ anchored.journalDomain ≠ observed.journalDomain then .error .domainMismatch
  else if observed.generation.value < anchored.generation.value ∨ observed.journalPosition < anchored.journalPosition then
    .error .rollbackDetected
  else if observed.keyEpoch.value < anchored.keyEpoch.value then .error .keyEpochRegression
  else if observed.generation.value = anchored.generation.value ∧ observed.journalPosition = anchored.journalPosition then
    if observed.stateDigest ≠ anchored.stateDigest ∨ observed.journalTail ≠ anchored.journalTail ∨
        observed.keyEpoch ≠ anchored.keyEpoch then .error .divergentObservation
    else .ok .exact
  else .ok .advanceRequired

def appendField (value : Bytes) : Except ContractError Bytes :=
  if value.length < 2 ^ 32 then .ok (big 4 value.length ++ value) else .error .lengthOverflow

def appendFields : List Bytes → Except ContractError Bytes
  | [] => .ok []
  | value :: rest => do
    let first ← appendField value
    let others ← appendFields rest
    .ok (first ++ others)

def canonicalPreimage (revision : Counter) (previousDigest : Option Mark) (authenticatorId : Identity)
    (observation : Observation) :
    Except ContractError Bytes :=
  appendFields ([str "heptabao-rollback-checkpoint-v1", big 8 revision.value] ++
    (match previousDigest with
      | some digest => [[1], digest.bytes]
      | none => [[0]]) ++
    [authenticatorId.text, observation.storeDomain.text, big 8 observation.generation.value, observation.stateDigest.bytes,
      observation.journalDomain.text] ++
    (match observation.journalTail with
      | some tail => [[1], big 8 tail.sequence.value, tail.tag.bytes]
      | none => [[0]]) ++
    [big 8 observation.keyEpoch.value])

-- What the coordinator is given to authenticate checkpoints with; a call may fail.
structure Authenticator where
  id : Identity
  authenticate : Bytes → Option Mark

variable (authenticator : Authenticator)

def authenticated (preimage : Bytes) : Except CoordinatorError Mark :=
  match authenticator.authenticate preimage with
  | some digest => .ok digest
  | none => .error .authenticator

def liftContract {α : Type} : Except ContractError α → Except CoordinatorError α
  | .ok value => .ok value
  | .error error => .error (.contract error)

def verifyCheckpoint (point : Checkpoint) : Except CoordinatorError Unit := do
  if point.authenticatorId ≠ authenticator.id then .error (.contract .authenticatorMismatch)
  else if point.revision = .initial ∧ point.previousDigest.isSome then .error (.contract .invalidCheckpointShape)
  else if point.revision ≠ .initial ∧ point.previousDigest.isNone then .error (.contract .invalidCheckpointShape)
  else do
    let preimage ← liftContract
      (canonicalPreimage point.revision point.previousDigest point.authenticatorId point.observation)
    let expected ← authenticated authenticator preimage
    if expected ≠ point.digest then .error (.contract .checkpointAuthenticationFailed) else .ok ()

variable (prev : Option Checkpoint)

def admitObservation (observation : Observation) : Except CoordinatorError Unit :=
  match prev with
  | none => .ok ()
  | some current => do
    verifyCheckpoint authenticator current
    match compareObservation current.observation observation with
    | .error error => .error (.contract error)
    | .ok .exact => .error (.contract .checkpointAlreadyCurrent)
    | .ok .advanceRequired => .ok ()
    | .ok .unanchored => .error (.contract .invariantViolation)

def nextRevision : Option Checkpoint → Except CoordinatorError Counter
  | none => .ok .initial
  | some current =>
    match current.revision.checkedNext with
    | some revision => .ok revision
    | none => .error (.contract .revisionOverflow)

-- The part of advance between reading the anchor and writing it.
def prepare (observation : Observation) :
    Except CoordinatorError Checkpoint := do
  admitObservation authenticator prev observation
  let revision ← nextRevision prev
  let previousDigest := prev.map (·.digest)
  let preimage ← liftContract (canonicalPreimage revision previousDigest authenticator.id observation)
  let digest ← authenticated authenticator preimage
  .ok ⟨revision, previousDigest, authenticator.id, observation, digest⟩

structure Receipt where
  previous : Option Checkpoint
  current : Checkpoint
deriving DecidableEq

-- advance after the write: the receipt is compared, verified and read back.
def confirm (next : Checkpoint) (receipt : Receipt)
    (reread : Option Checkpoint) : Except CoordinatorError Receipt := do
  if receipt.previous ≠ prev ∨ receipt.current ≠ next then .error (.contract .receiptMismatch)
  else do
    verifyCheckpoint authenticator receipt.current
    if reread ≠ some receipt.current then .error (.contract .receiptMismatch) else .ok receipt

-- The anchor itself: one register whose write is atomic.
def compareAndSwap (current : Option Checkpoint) (expected : Option Counter) (next : Checkpoint) :
    Option (Receipt × Option Checkpoint) :=
  if current.map (·.revision) ≠ expected then none else some (⟨current, next⟩, some next)

def advance (anchor : Option Checkpoint) (observation : Observation) :
    Except CoordinatorError Receipt × Option Checkpoint :=
  match prepare authenticator anchor observation with
  | .error error => (.error error, anchor)
  | .ok next =>
    match compareAndSwap anchor (anchor.map (·.revision)) next with
    | none => (.error .anchor, anchor)
    | some (receipt, after) => (confirm authenticator anchor next receipt after, after)

-- A call that is under way, with what it has read and built.
inductive Call where
  | idle
  | read (prev : Option Checkpoint) (observation : Observation)
  | swapped (prev : Option Checkpoint) (next : Checkpoint) (receipt : Receipt)

-- Any number of coordinators over one anchor, with all it took and all they returned.
structure World where
  current : Option Checkpoint
  accepted : List Checkpoint
  calls : Nat → Call
  receipts : List Receipt

def World.initial : World := ⟨none, [], fun _ => .idle, []⟩

inductive Fault where
  | before
  | after
deriving DecidableEq

-- The three anchor calls of advance. A write that fails may have been done.
inductive Event where
  | read (caller : Nat) (observation : Observation)
  | swap (caller : Nat) (authenticator : Authenticator) (fault : Option Fault)
  | reread (caller : Nat) (authenticator : Authenticator)
  | failed (caller : Nat)

def World.setCall (world : World) (caller : Nat) (call : Call) : World :=
  { world with calls := fun other => if other = caller then call else world.calls other }

def World.take (world : World) (after : Option Checkpoint) (next : Checkpoint) : World :=
  { world with current := after, accepted := world.accepted ++ [next] }

def World.swap (world : World) (caller : Nat) (prev : Option Checkpoint) (next : Checkpoint) (fault : Option Fault) :
    World :=
  match compareAndSwap world.current (prev.map (·.revision)) next, fault with
  | none, _ => world.setCall caller .idle
  | some _, some .before => world.setCall caller .idle
  | some (_, after), some .after => (world.take after next).setCall caller .idle
  | some (receipt, after), none => (world.take after next).setCall caller (.swapped prev next receipt)

def World.step (world : World) : Event → World
  | .read caller observation => world.setCall caller (.read world.current observation)
  | .swap caller authenticator fault =>
    match world.calls caller with
    | .read prev observation =>
      match prepare authenticator prev observation with
      | .error _ => world.setCall caller .idle
      | .ok next => world.swap caller prev next fault
    | _ => world
  | .reread caller authenticator =>
    match world.calls caller with
    | .swapped prev next receipt =>
      match confirm authenticator prev next receipt world.current with
      | .error _ => world.setCall caller .idle
      | .ok receipt => { world with receipts := world.receipts ++ [receipt] }.setCall caller .idle
    | _ => world
  | .failed caller => world.setCall caller .idle

end HeptaBao.Anchor
