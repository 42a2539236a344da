import Mathlib
import HeptaBao.Wire.Reader

namespace HeptaBao.Durable

open Wire Std

-- A Rust String is its UTF-8 bytes: lengths, order and encodings are theirs.
abbrev Str := Bytes

def str (text : String) : Str := text.toList.map fun c => UInt8.ofNat c.toNat

def maxFileBytes : Nat := 64 * 1024 * 1024
def maxBackupBytes : Nat := maxFileBytes * 2 + 2 * 1024 * 1024
def maxStringBytes : Nat := 4 * 1024
def maxSecretBytes : Nat := 1024 * 1024
def maxRecords : Nat := 1000000

-- [u8; 32]
@[ext] structure Digest where
  bytes : Bytes
  size : bytes.length = 32
deriving DecidableEq

def zeroDigest : Digest := ⟨List.replicate 32 0, by simp⟩

inductive ServiceError where
  | legacySchema
  | recoveryRequired
  | journalCapacityExhausted
  | invalidIdentifier
  | invalidNamespace
  | invalidResource
  | invalidSecret
  | invalidAuthorizationDigest
  | requestBindingConflict
  | requestCapacityExhausted
  | backupRollbackRejected
  | generationOverflow
  | outcomeUnknown (recoveryReference : Str)
  | corruptState
  | barrierFailure
  | io
deriving DecidableEq, Repr

-- SHA-256 and the caller's barrier. A seal draws a nonce, so seals of one text may differ.
structure Env where
  sha256 : Bytes → Digest
  sealBytes : Nat → Bytes → Bytes → Option Bytes
  openBytes : Bytes → Bytes → Option Bytes

-- Sealing never fails, opening in the same context inverts it, only the length shows.
structure BarrierLaws (env : Env) : Prop where
  opens : ∀ nonce ctx plaintext, ∃ sealed, env.sealBytes nonce ctx plaintext = some sealed ∧
    env.openBytes ctx sealed = some plaintext
  length : ∀ nonce nonce' ctx context' plaintext plaintext' sealed sealed',
    plaintext.length = plaintext'.length → env.sealBytes nonce ctx plaintext = some sealed →
      env.sealBytes nonce' context' plaintext' = some sealed' → sealed.length = sealed'.length

-- Secret::new rejects the empty payload and anything beyond one mebibyte.
@[ext]
structure Secret where
  bytes : Bytes
  nonempty : bytes ≠ []
  bounded : bytes.length ≤ maxSecretBytes
deriving DecidableEq

structure PutRequest where
  principal : Str
  nspace : Str
  requestId : Str
  resource : Str
  authorizationDigest : Digest
  value : Secret
deriving DecidableEq

structure DeleteRequest where
  principal : Str
  nspace : Str
  requestId : Str
  resource : Str
  authorizationDigest : Digest
deriving DecidableEq

structure RequestKey where
  principal : Str
  nspace : Str
  requestId : Str
deriving DecidableEq, Repr

def RequestKey.order : RequestKey → RequestKey → Ordering :=
  compareLex (compareOn RequestKey.principal)
    (compareLex (compareOn RequestKey.nspace) (compareOn RequestKey.requestId))

instance : Ord RequestKey := ⟨RequestKey.order⟩

instance : TransOrd RequestKey :=
  inferInstanceAs (TransCmp (compareLex (compareOn RequestKey.principal)
    (compareLex (compareOn RequestKey.nspace) (compareOn RequestKey.requestId))))

instance : LawfulEqOrd RequestKey where
  eq_of_compare := by
    intro a b same
    change RequestKey.order a b = .eq at same
    simp only [RequestKey.order, compareLex_eq_eq, compareOn, LawfulEqOrd.compare_eq_iff_eq] at same
    cases a
    cases b
    simp_all

-- Storage keys are (namespace, resource) pairs in tuple order.
structure StorageKey where
  nspace : Str
  resource : Str
deriving DecidableEq, Repr

def StorageKey.order : StorageKey → StorageKey → Ordering :=
  compareLex (compareOn StorageKey.nspace) (compareOn StorageKey.resource)

instance : Ord StorageKey := ⟨StorageKey.order⟩

instance : TransOrd StorageKey :=
  inferInstanceAs (TransCmp (compareLex (compareOn StorageKey.nspace) (compareOn StorageKey.resource)))

instance : LawfulEqOrd StorageKey where
  eq_of_compare := by
    intro a b same
    change StorageKey.order a b = .eq at same
    simp only [StorageKey.order, compareLex_eq_eq, compareOn, LawfulEqOrd.compare_eq_iff_eq] at same
    cases a
    cases b
    simp_all

inductive MutationKind where
  | put
  | delete
deriving DecidableEq, Repr

structure Binding where
  key : RequestKey
  resource : Str
  kind : MutationKind
  authorizationDigest : Digest
  valueDigest : Digest
deriving DecidableEq

def Binding.storageKey (binding : Binding) : StorageKey := ⟨binding.key.nspace, binding.resource⟩

structure CommitMarker where
  key : RequestKey
  bindingDigest : Digest
  recoveryReference : Str
  generation : Nat
deriving DecidableEq

structure LedgerRecord where
  bindingDigest : Digest
  recoveryReference : Str
  generation : Nat
deriving DecidableEq

structure CheckpointMarker where
  generation : Nat
  retainedRequests : Nat
  lastCommit : Option CommitMarker
  ledgerDigest : Digest
deriving DecidableEq

abbrev Entries := ExtTreeMap StorageKey Bytes
abbrev Ledger := ExtTreeMap RequestKey LedgerRecord
abbrev Markers := ExtTreeMap RequestKey CommitMarker

structure Snapshot where
  generation : Nat
  entries : Entries
  lastCommit : Option CommitMarker

inductive JournalEvent where
  | intent (mark : CommitMarker)
  | commit (mark : CommitMarker)
  | abort (mark : CommitMarker)
  | checkpoint (mark : CheckpointMarker)
deriving DecidableEq

inductive MutationOutcome where
  | committed (gen : Nat) (recoveryReference : Str)
  | duplicate (gen : Nat) (recoveryReference : Str)
deriving DecidableEq, Repr

inductive ReconciliationStatus where
  | committed (gen : Nat)
  | aborted
  | unknown
deriving DecidableEq, Repr

-- u64 and usize addition that refuses to wrap.
def checkedAdd (a b : Nat) : Option Nat := if a + b < 2 ^ 64 then some (a + b) else none

theorem checked_add_small (a b : Nat) (small : a + b < 2 ^ 64) : checkedAdd a b = some (a + b) := if_pos small

end HeptaBao.Durable
