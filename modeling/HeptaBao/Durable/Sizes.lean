import HeptaBao.Durable.RoundTrip

namespace HeptaBao.Durable

open Wire Std List ExtTreeMap

-- Whatever the validators accept can be encoded, and into how many bytes.
def markerBytes : Nat := 1624
def entryBytes : Nat := 4 + 1024 + (4 + maxStringBytes) + (4 + maxSecretBytes)

theorem write_bytes_length (value : Bytes) (small : value.length < 2 ^ 32) :
    ∃ bytes, writeBytes value = .ok bytes ∧ bytes.length = 4 + value.length :=
  ⟨little 4 value.length ++ value, if_pos small, by simp⟩

theorem encode_string_length (value : Str) (bounded : value.length ≤ maxStringBytes) :
    ∃ bytes, encodeStringChecked value = .ok bytes ∧ bytes.length = 4 + value.length := by
  have limit : maxStringBytes = 4096 := rfl
  obtain ⟨bytes, written, length⟩ := write_bytes_length value (by omega)
  exact ⟨bytes, by rw [encodeStringChecked, if_neg (by omega), written], length⟩

theorem encode_request_key_length (key : RequestKey) (valid : validateKey key = .ok ()) :
    ∃ bytes, encodeRequestKey key = .ok bytes ∧ bytes.length ≤ 1548 := by
  obtain ⟨validPrincipal, validSpace, validRequest⟩ := validate_key_parts valid
  have limit : maxStringBytes = 4096 := rfl
  have principalBound := (identifier_bounds validPrincipal).1
  have spaceBound := (namespace_bounds validSpace).1
  have requestBound := (identifier_bounds validRequest).1
  obtain ⟨who, wrotePrincipal, _⟩ := encode_string_length key.principal (by omega)
  obtain ⟨nspace, wroteSpace, _⟩ := encode_string_length key.nspace (by omega)
  obtain ⟨requestId, wroteRequest, _⟩ := encode_string_length key.requestId (by omega)
  refine ⟨who ++ (nspace ++ requestId), by simp only [encodeRequestKey, wrotePrincipal, wroteSpace, wroteRequest]; rfl, ?_⟩
  simp only [length_append]
  omega

theorem encode_record_length (key : RequestKey) (record : LedgerRecord) (valid : RecordOk key record) :
    ∃ bytes, encodeRecord (key, record) = .ok bytes ∧ bytes.length ≤ markerBytes := by
  obtain ⟨name, wroteKey, _⟩ := encode_request_key_length key valid.validKey
  obtain ⟨_, _, _, _⟩ := (validate_record_iff record).mp valid.validRecord
  have limit : maxStringBytes = 4096 := rfl
  obtain ⟨ref, wroteReference, _⟩ := encode_string_length record.recoveryReference (by omega)
  refine ⟨name ++ (record.bindingDigest.bytes ++ (ref ++ little 8 record.generation)), ?_, ?_⟩
  · simp only [encodeRecord, wroteKey, wroteReference]
    rfl
  · simp only [length_append, Digest.size, little_length, markerBytes]
    omega

theorem encode_marker_record (mark : CommitMarker) : encodeMarker mark =
    encodeRecord (mark.key, ⟨mark.bindingDigest, mark.recoveryReference, mark.generation⟩) := rfl

theorem encode_marker_length {mark : CommitMarker} (valid : validateMarker mark = .ok ())
    (bounded : mark.generation < 2 ^ 64) :
    ∃ bytes, encodeMarker mark = .ok bytes ∧ bytes.length ≤ markerBytes := by
  obtain ⟨validKey, validRecord⟩ := (validate_marker_iff mark).mp valid
  rw [encode_marker_record]
  exact encode_record_length _ _ ⟨validKey, validRecord, bounded⟩

theorem encode_last_commit_length {lastCommit : Option CommitMarker} (valid : LastCommitOk lastCommit) :
    ∃ bytes, encodeLastCommit lastCommit = .ok bytes ∧ bytes.length ≤ 1 + markerBytes := by
  cases lastCommit with
  | none => exact ⟨[0], rfl, by simp⟩
  | some mark =>
    obtain ⟨encoded, wrote, _⟩ := encode_marker_length (valid mark rfl).1 (valid mark rfl).2
    refine ⟨1 :: encoded, by simp only [encodeLastCommit, wrote]; rfl, ?_⟩
    rw [length_cons]
    omega

theorem encode_ledger_length (ledger : Ledger)
    (valid : ∀ (key : RequestKey) (record : LedgerRecord), ledger[key]? = some record →
    RecordOk key record) (size : ledger.size ≤ maxRecords) :
    ∃ bytes, encodeLedger ledger = .ok bytes ∧ bytes.length ≤ 8 + ledger.size * markerBytes := by
  obtain ⟨records, wroteRecords, recordsLength⟩ := Reader.write_each_bounded encodeRecord markerBytes ledger.toList
    (fun entry listed => encode_record_length entry.1 entry.2
      (valid _ _ (mem_toList_iff_getElem?_eq_some.mp (show (entry.1, entry.2) ∈ ledger.toList from listed))))
  have limit : maxRecords = 1000000 := rfl
  have count : encodeCount ledger.size = .ok (little 4 ledger.size) := if_pos (by omega)
  refine ⟨ledgerPlaintextMagic ++ (little 4 ledger.size ++ records), by simp only [encodeLedger, count, wroteRecords]; rfl, ?_⟩
  have magic : ledgerPlaintextMagic.length = 4 := rfl
  rw [length_toList] at recordsLength
  simp only [length_append, magic, little_length]
  omega

theorem encode_entry_length (key : StorageKey) (value : Bytes) (valid : EntryOk key value) :
    ∃ bytes, encodeEntry (key, value) = .ok bytes ∧ bytes.length ≤ entryBytes := by
  obtain ⟨validSpace, validResource, _, _⟩ := valid
  have limit : maxStringBytes = 4096 := rfl
  have secret : maxSecretBytes = 1048576 := rfl
  have spaceBound := (namespace_bounds validSpace).1
  have resourceBound := (resource_bounds _ validResource).1
  obtain ⟨nspace, wroteSpace, _⟩ := encode_string_length key.nspace (by omega)
  obtain ⟨resource, wroteResource, _⟩ := encode_string_length key.resource resourceBound
  obtain ⟨payload, wroteValue, _⟩ := write_bytes_length value (by omega)
  refine ⟨nspace ++ (resource ++ payload), by simp only [encodeEntry, wroteSpace, wroteResource, wroteValue]; rfl, ?_⟩
  simp only [length_append, entryBytes]
  omega

theorem encode_snapshot_length (snap : Snapshot) (valid : SnapshotOk snap) : ∃ bytes, encodeSnapshot snap = .ok bytes ∧
      bytes.length ≤ 17 + markerBytes + snap.entries.size * entryBytes := by
  obtain ⟨last, wroteLast, _⟩ := encode_last_commit_length valid.lastCommit
  obtain ⟨entries, wroteEntries, entriesLength⟩ := Reader.write_each_bounded encodeEntry entryBytes snap.entries.toList
    (fun entry listed => encode_entry_length entry.1 entry.2 (valid.entries _ _
      (mem_toList_iff_getElem?_eq_some.mp (show (entry.1, entry.2) ∈ snap.entries.toList from listed))))
  have limit : maxRecords = 1000000 := rfl
  have small := valid.size
  have count : encodeCount snap.entries.size = .ok (little 4 snap.entries.size) := if_pos (by omega)
  refine ⟨snapshotPlaintextMagic ++ (little 8 snap.generation ++ (last ++ (little 4 snap.entries.size ++ entries))),
    by simp only [encodeSnapshot, wroteLast, count, wroteEntries]; rfl, ?_⟩
  have magic : snapshotPlaintextMagic.length = 4 := rfl
  rw [length_toList] at entriesLength
  simp only [length_append, magic, little_length]
  omega

theorem encode_event_length (event : JournalEvent) (valid : EventOk event) :
    ∃ bytes, encodeJournalEvent event = .ok bytes ∧ bytes.length ≤ 50 + markerBytes := by
  cases event with
  | intent mark =>
    obtain ⟨encoded, wrote, length⟩ := encode_marker_length valid.1 valid.2
    exact ⟨1 :: encoded, by simp only [encodeJournalEvent, wrote]; rfl, by rw [length_cons]; omega⟩
  | commit mark =>
    obtain ⟨encoded, wrote, length⟩ := encode_marker_length valid.1 valid.2
    exact ⟨2 :: encoded, by simp only [encodeJournalEvent, wrote]; rfl, by rw [length_cons]; omega⟩
  | abort mark =>
    obtain ⟨encoded, wrote, length⟩ := encode_marker_length valid.1 valid.2
    exact ⟨3 :: encoded, by simp only [encodeJournalEvent, wrote]; rfl, by rw [length_cons]; omega⟩
  | checkpoint =>
    obtain ⟨_, wrote, _⟩ := encode_last_commit_length valid.2.2
    refine ⟨_, by simp only [encodeJournalEvent, wrote]; rfl, ?_⟩
    simp only [length_cons, length_append, little_length, Digest.size]
    omega

end HeptaBao.Durable
