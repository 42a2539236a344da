import HeptaBao.Durable.Recover

namespace HeptaBao.Durable

open Wire Std List

-- What a directory is about: one snapshot and the complete ledger that led to it.
structure Committed where
  snapshot : Snapshot
  ledger : Ledger

def Committed.empty : Committed := ⟨emptySnapshot, ∅⟩

def Committed.commit (state : Committed) (mark : CommitMarker) (entries : Entries) : Committed :=
  ⟨⟨mark.generation, entries, some mark⟩, state.ledger.insert mark.key (recordOf mark)⟩

-- No digest of a hashed input repeats in its first sixteen bytes, and none is zero.
structure CollisionFree (env : Env) (inputs : List Bytes) : Prop where
  distinct : ∀ a ∈ inputs, ∀ b ∈ inputs, (env.sha256 a).bytes.take 16 = (env.sha256 b).bytes.take 16 → a = b
  nonzero : ∀ a ∈ inputs, env.sha256 a ≠ zeroDigest

variable {env : Env} {inputs : List Bytes}

theorem collision_free_subset {more : List Bytes} (subset : inputs ⊆ more) (free : CollisionFree env more) :
    CollisionFree env inputs :=
  ⟨fun a memberA b memberB => free.distinct a (subset memberA) b (subset memberB), fun a member => free.nonzero a (subset member)⟩

structure Issued (env : Env) (inputs : List Bytes) (bindingDigest : Digest) (gen seq : Nat)
    (ref : Str) : Prop where
  reference : ref = recoveryReference env bindingDigest gen seq
  hashed : digestInput recoveryDomain (recoveryInput bindingDigest gen seq) ∈ inputs
  generationBound : gen < 2 ^ 64
  sequenceBound : seq < 2 ^ 64

theorem hex_bytes_hexdigits (bytes : Bytes) : (hexBytes bytes).all asciiHexdigit = true :=
  all_eq_true.mpr (hex_bytes_all (asciiHexdigit · = true) (by decide) bytes)

theorem recovery_reference_form (env : Env) (bindingDigest : Digest) (gen seq : Nat) :
    (recoveryReference env bindingDigest gen seq).length = 32 ∧
      (recoveryReference env bindingDigest gen seq).all asciiHexdigit = true := by
  refine ⟨?_, hex_bytes_hexdigits _⟩
  unfold recoveryReference
  rw [hex_bytes_length, length_take, Digest.size]
  rfl

theorem digest_input_injective (domain a b : Bytes) (same : digestInput domain a = digestInput domain b) : a = b := by
  unfold digestInput at same
  obtain ⟨_, same⟩ := append_split rfl same
  obtain ⟨_, same⟩ := append_split rfl same
  exact (append_split (by simp) same).2

theorem issued_injective (free : CollisionFree env inputs) {digest digest' : Digest}
    {gen generation' seq sequence' : Nat} {ref : Str} (issued : Issued env inputs digest gen seq ref)
    (issued' : Issued env inputs digest' generation' sequence' ref) : digest = digest' ∧ gen = generation' ∧
      seq = sequence' := by
  have same : recoveryReference env digest gen seq = recoveryReference env digest' generation' sequence' := by
    rw [← issued.reference, ← issued'.reference]
  have sameInput := free.distinct _ issued.hashed _ issued'.hashed (hex_bytes_injective _ _ same)
  have sameTriple := digest_input_injective _ _ _ sameInput
  unfold recoveryInput at sameTriple
  obtain ⟨sameDigest, sameTriple⟩ := append_split (by rw [digest.size, digest'.size]) sameTriple
  obtain ⟨sameGeneration, sameSequence⟩ := append_split (by simp) sameTriple
  exact ⟨Digest.ext sameDigest, little_injective (by simpa using issued.generationBound) (by simpa using issued'.generationBound) sameGeneration,
    little_injective (by simpa using issued.sequenceBound) (by simpa using issued'.sequenceBound) sameSequence⟩

structure EntriesOk (entries : Entries) (gen : Nat) : Prop where
  valid : ∀ (key : StorageKey) (value : Bytes), entries[key]? = some value → EntryOk key value
  size : entries.size ≤ gen

structure CommittedOk (env : Env) (inputs : List Bytes) (state : Committed) : Prop where
  ledger : LedgerOk state.ledger state.snapshot.generation
  entries : EntriesOk state.snapshot.entries state.snapshot.generation
  bounded : state.snapshot.generation ≤ maxRecords
  frontier : (state.snapshot.generation = 0 ∧ state.snapshot.lastCommit = none) ∨
    ∃ (key : RequestKey) (record : LedgerRecord), state.ledger[key]? = some record ∧
      record.generation = state.snapshot.generation ∧ state.snapshot.lastCommit = some (markerOf key record)
  issued : ∀ (key : RequestKey) (record : LedgerRecord), state.ledger[key]? = some record →
    ∃ seq, Issued env inputs record.bindingDigest record.generation seq record.recoveryReference

-- A marker that execute may issue on a state and a journal of `count` records.
structure Admissible (env : Env) (inputs : List Bytes) (state : Committed) (count : Nat) (mark : CommitMarker) : Prop where
  key : validateKey mark.key = .ok ()
  digest : mark.bindingDigest ≠ zeroDigest
  fresh : state.ledger[mark.key]? = none
  generation : mark.generation = state.snapshot.generation + 1
  bounded : mark.generation ≤ maxRecords
  issued : Issued env inputs mark.bindingDigest mark.generation (count + 1) mark.recoveryReference
  room : count + 2 ≤ maxRecords

theorem max_records_small : maxRecords + 1 < 2 ^ 64 := by decide

variable {state : Committed} {mark : CommitMarker}

theorem admissible_record {count : Nat} (legal : Admissible env inputs state count mark) :
    RecordOk mark.key (recordOf mark) := by
  have form := recovery_reference_form env mark.bindingDigest mark.generation (count + 1)
  rw [← legal.issued.reference] at form
  refine ⟨legal.key, (validate_record_iff _).mpr ⟨legal.digest, ?_, form.1, form.2⟩, legal.issued.generationBound⟩
  have next := legal.generation
  simp only [recordOf]
  omega

theorem admissible_marker {count : Nat} (legal : Admissible env inputs state count mark) :
    validateMarker mark = .ok () ∧ mark.generation < 2 ^ 64 := by
  have record := admissible_record legal
  exact ⟨(validate_marker_iff mark).mpr ⟨record.validKey, record.validRecord⟩, record.bounded⟩

end HeptaBao.Durable
