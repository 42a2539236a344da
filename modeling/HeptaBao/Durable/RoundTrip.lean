import HeptaBao.Durable.Codec

namespace HeptaBao.Durable

open Wire Std List Reader

theorem check_true (condition : Bool) (holds : condition = true) : check condition = .ok () := if_pos holds

theorem reads_u8 (byte : UInt8) : Reads readU8 [byte] byte.toNat := by
  have reads := reads_map (readExact 1) fromLittle [byte] [byte] (reads_exact _ 1 [byte] rfl)
  rwa [show fromLittle [byte] = byte.toNat by simp [fromLittle]] at reads

theorem reads_u16 (value : Nat) (bounded : value < 2 ^ 16) : Reads readU16 (little 2 value) value := by
  have reads := reads_map (readExact 2) fromLittle (little 2 value) (little 2 value)
    (reads_exact _ 2 _ (little_length 2 value))
  rwa [from_little 2 value (by simpa using bounded)] at reads

theorem reads_u32 (value : Nat) (bounded : value < 2 ^ 32) : Reads readU32 (little 4 value) value := by
  have reads := reads_map (readExact 4) fromLittle (little 4 value) (little 4 value)
    (reads_exact _ 4 _ (little_length 4 value))
  rwa [from_little 4 value (by simpa using bounded)] at reads

theorem reads_u64 (value : Nat) (bounded : value < 2 ^ 64) : Reads readU64 (little 8 value) value := by
  have reads := reads_map (readExact 8) fromLittle (little 8 value) (little 8 value)
    (reads_exact _ 8 _ (little_length 8 value))
  rwa [from_little 8 value (by simpa using bounded)] at reads

theorem reads_array32 (digest : Digest) : Reads readArray32 digest.bytes digest := by
  have converted : digestOf digest.bytes = .ok digest := by simp [digestOf, digest.size]
  have reads := @reads_bind _ _ _ (readExact 32) (fun bytes => Reader.lift (digestOf bytes)) digest.bytes []
    digest.bytes digest (reads_exact _ 32 _ digest.size) (Reader.reads_lift _ _ converted)
  simpa [readArray32] using reads

theorem write_bytes_eq {value bytes : Bytes} (written : writeBytes value = .ok bytes) :
    value.length < 2 ^ 32 ∧ bytes = little 4 value.length ++ value := by
  unfold writeBytes at written
  split at written
  · rename_i small
    cases written
    exact ⟨small, rfl⟩
  · cases written

theorem reads_bytes (maximum : Nat) {value : Bytes} {bytes : Bytes} (written : writeBytes value = .ok bytes)
    (bounded : value.length ≤ maximum) : Reads (readBytes maximum) bytes value := by
  obtain ⟨small, rfl⟩ := write_bytes_eq written
  refine reads_bind (reads_u32 _ small) ?_
  exact reads_check (check_true _ (decide_eq_true bounded)) (reads_exact _ _ _ rfl)

theorem string_written {value : Str} {bytes : Bytes} (written : encodeStringChecked value = .ok bytes) :
    writeBytes value = .ok bytes := by
  unfold encodeStringChecked at written
  split at written
  · cases written
  · exact written

theorem reads_string (maximum : Nat) {value : Str} {bytes : Bytes} (written : encodeStringChecked value = .ok bytes)
    (bounded : value.length ≤ maximum ∧ utf8Valid value = true) : Reads (readString maximum) bytes value := by
  have reads := @reads_bind _ _ _ _ (fun read => Reader.lift (check (utf8Valid read)) >>= fun _ => pure read)
    bytes [] value value (reads_bytes maximum (string_written written) bounded.1)
    (@reads_check _ _ _ _ _ [] () value (check_true _ bounded.2) (reads_pure value))
  rwa [append_nil] at reads

theorem reads_request_key (key : RequestKey) (bytes : Bytes) (written : encodeRequestKey key = .ok bytes)
    (valid : validateKey key = .ok ()) : Reads decodeRequestKey bytes key := by
  obtain ⟨_, wrotePrincipal, written⟩ := bind_ok written
  obtain ⟨_, wroteNamespace, written⟩ := bind_ok written
  obtain ⟨requestId, wroteRequest, written⟩ := bind_ok written
  cases written
  obtain ⟨validPrincipal, validSpace, validRequest⟩ := validate_key_parts valid
  refine reads_bind (reads_string _ wrotePrincipal (identifier_bounds validPrincipal)) ?_
  refine reads_bind (reads_string _ wroteNamespace (namespace_bounds validSpace)) ?_
  have reads := @reads_bind _ _ _ _ (fun id => Reader.lift (validateKey ⟨key.principal, key.nspace, id⟩) >>=
      fun _ => pure (⟨key.principal, key.nspace, id⟩ : RequestKey)) requestId [] key.requestId key
    (reads_string _ wroteRequest (identifier_bounds validRequest))
    (@reads_check _ _ _ _ _ [] () key valid (reads_pure key))
  rwa [append_nil] at reads

variable {mark : CommitMarker}

theorem reads_marker {bytes : Bytes} (written : encodeMarker mark = .ok bytes)
    (valid : validateMarker mark = .ok ()) (bounded : mark.generation < 2 ^ 64) : Reads decodeMarker bytes mark := by
  obtain ⟨_, wroteKey, written⟩ := bind_ok written
  obtain ⟨_, wroteReference, written⟩ := bind_ok written
  cases written
  obtain ⟨validKey, validRecord⟩ := (validate_marker_iff mark).mp valid
  obtain ⟨_, _, length, hex⟩ := (validate_record_iff _).mp validRecord
  refine reads_bind (reads_request_key _ _ wroteKey validKey) ?_
  refine reads_bind (reads_array32 _) ?_
  refine reads_bind
    (reads_string _ wroteReference (reference_bounds _ length hex)) ?_
  have reads := @reads_bind _ _ _ _ (fun gen =>
      Reader.lift (validateMarker ⟨mark.key, mark.bindingDigest, mark.recoveryReference, gen⟩) >>=
        fun _ => pure (⟨mark.key, mark.bindingDigest, mark.recoveryReference, gen⟩ : CommitMarker))
    (little 8 mark.generation) [] mark.generation mark (reads_u64 _ bounded)
    (@reads_check _ _ _ _ _ [] () mark valid (reads_pure mark))
  rwa [append_nil] at reads

def LastCommitOk (lastCommit : Option CommitMarker) : Prop :=
  ∀ mark, lastCommit = some mark → validateMarker mark = .ok () ∧ mark.generation < 2 ^ 64

theorem reads_last_commit (lastCommit : Option CommitMarker) (bytes : Bytes)
    (written : encodeLastCommit lastCommit = .ok bytes) (valid : LastCommitOk lastCommit) :
      Reads decodeLastCommit bytes lastCommit := by
  cases lastCommit with
  | none =>
    cases written
    exact @reads_bind _ _ _ _ _ [0] [] 0 none (reads_u8 0) (reads_pure none)
  | some mark =>
    obtain ⟨encoded, wrote, written⟩ := bind_ok written
    cases written
    obtain ⟨validMarker, bounded⟩ := valid mark rfl
    refine @reads_bind _ _ _ _ _ [1] encoded 1 (some mark) (reads_u8 1) ?_
    exact reads_map decodeMarker some encoded mark (reads_marker wrote validMarker bounded)

theorem encode_count_eq {count : Nat} {bytes : Bytes} (written : encodeCount count = .ok bytes) : count < 2 ^ 32 ∧
    bytes = little 4 count := by
  unfold encodeCount at written
  split at written
  · rename_i small
    cases written
    exact ⟨small, rfl⟩
  · cases written

-- A snapshot's entries: names the validators accept and payloads Secret accepts.
def EntryOk (key : StorageKey) (value : Bytes) : Prop :=
  validateNamespace key.nspace = .ok () ∧ validateResource key.resource = .ok () ∧ value ≠ [] ∧ value.length ≤ maxSecretBytes

theorem reads_entry {built : Entries} {key : StorageKey} {value chunk : Bytes} (valid : EntryOk key value)
    (fresh : built.contains key = false) (written : encodeEntry (key, value) = .ok chunk) :
    Reads (decodeEntry built) chunk (built.insert key value) := by
  obtain ⟨_, wroteSpace, written⟩ := @bind_ok _ _ _ _ _ _ written
  obtain ⟨_, wroteResource, written⟩ := @bind_ok _ _ _ _ _ _ written
  obtain ⟨payload, wroteValue, written⟩ := @bind_ok _ _ _ _ _ _ written
  cases written
  obtain ⟨validSpace, validResource, nonempty, bounded⟩ := valid
  refine reads_bind (reads_string _ wroteSpace (namespace_bounds validSpace)) ?_
  refine reads_bind (reads_string _ wroteResource (resource_bounds _ validResource)) ?_
  refine reads_check validSpace ?_
  refine reads_check validResource ?_
  have reads := @reads_bind _ _ _ _ (fun read => Reader.lift (check (read ≠ [])) >>= fun _ =>
      Reader.lift (check (built.contains key = false)) >>= fun _ => pure (built.insert key read))
    payload [] value _ (reads_bytes maxSecretBytes wroteValue bounded)
    (@reads_check _ _ _ _ _ [] () _ (check_true _ (decide_eq_true nonempty))
      (@reads_check _ _ _ _ _ [] () _ (check_true _ (decide_eq_true fresh)) (reads_pure _)))
  rwa [append_nil] at reads

structure SnapshotOk (snap : Snapshot) : Prop where
  generation : snap.generation < 2 ^ 64
  lastCommit : LastCommitOk snap.lastCommit
  entries : ∀ key value, snap.entries[key]? = some value → EntryOk key value
  size : snap.entries.size ≤ maxRecords

theorem decode_encode_snapshot {snap : Snapshot} {bytes : Bytes} (written : encodeSnapshot snap = .ok bytes)
    (valid : SnapshotOk snap) : decodeSnapshot bytes = .ok snap := by
  obtain ⟨lastCommit, wroteLast, written⟩ := bind_ok written
  obtain ⟨_, wroteCount, written⟩ := bind_ok written
  obtain ⟨entries, wroteEntries, written⟩ := bind_ok written
  cases written
  obtain ⟨small, rfl⟩ := encode_count_eq wroteCount
  have magic : snapshotPlaintextMagic.length = 4 := rfl
  have header : ¬ ((snapshotPlaintextMagic ++ (little 8 snap.generation ++ (lastCommit ++ (little 4 snap.entries.size ++ entries)))).length < 4 ∨
      (snapshotPlaintextMagic ++ (little 8 snap.generation ++ (lastCommit ++
        (little 4 snap.entries.size ++ entries)))).take 4 ≠ snapshotPlaintextMagic) := by
    rw [take_left' magic]
    simp [magic]
  unfold decodeSnapshot
  rw [if_neg header, drop_left' magic]
  apply complete_reads
  refine reads_bind (reads_u64 _ valid.generation) ?_
  refine reads_bind (reads_last_commit _ _ wroteLast valid.lastCommit) ?_
  refine reads_bind (reads_u32 _ small) ?_
  refine reads_check (check_true _ (decide_eq_true valid.size)) ?_
  refine reads_map _ (fun entries => (⟨snap.generation, entries, snap.lastCommit⟩ : Snapshot)) _ _ ?_
  exact reads_sorted_map wroteEntries
    (fun built key value chunk found fresh wrote => reads_entry (valid.entries key value found) fresh wrote)

structure RecordOk (key : RequestKey) (record : LedgerRecord) : Prop where
  validKey : validateKey key = .ok ()
  validRecord : validateLedgerRecord record = .ok ()
  bounded : record.generation < 2 ^ 64

theorem reads_record {built : Ledger} {key : RequestKey} {record : LedgerRecord} {chunk : Bytes}
    (valid : RecordOk key record) (fresh : built.contains key = false)
    (written : encodeRecord (key, record) = .ok chunk) :
    Reads (decodeRecord built) chunk (built.insert key record) := by
  obtain ⟨_, wroteKey, written⟩ := @bind_ok _ _ _ _ _ _ written
  obtain ⟨_, wroteReference, written⟩ := @bind_ok _ _ _ _ _ _ written
  cases written
  obtain ⟨_, _, length, hex⟩ := (validate_record_iff record).mp valid.validRecord
  refine reads_bind (reads_request_key _ _ wroteKey valid.validKey) ?_
  refine reads_bind (reads_array32 _) ?_
  refine reads_bind
    (reads_string _ wroteReference (reference_bounds _ length hex)) ?_
  have reads := @reads_bind _ _ _ _ (fun gen => Reader.lift (check (built.contains key = false)) >>= fun _ =>
      pure (built.insert key ⟨record.bindingDigest, record.recoveryReference, gen⟩))
    (little 8 record.generation) [] record.generation _ (reads_u64 _ valid.bounded)
    (@reads_check _ _ _ _ _ [] () _ (check_true _ (decide_eq_true fresh)) (reads_pure _))
  rwa [append_nil] at reads

theorem decode_encode_ledger {ledger : Ledger} {bytes : Bytes} (written : encodeLedger ledger = .ok bytes)
    (valid : ∀ key record, ledger[key]? = some record → RecordOk key record) (size : ledger.size ≤ maxRecords) :
      decodeLedger bytes = .ok ledger := by
  obtain ⟨_, wroteCount, written⟩ := bind_ok written
  obtain ⟨records, wroteRecords, written⟩ := bind_ok written
  cases written
  obtain ⟨small, rfl⟩ := encode_count_eq wroteCount
  have magic : ledgerPlaintextMagic.length = 4 := rfl
  have header : ¬ ((ledgerPlaintextMagic ++ (little 4 ledger.size ++ records)).length < 4 ∨
      (ledgerPlaintextMagic ++ (little 4 ledger.size ++ records)).take 4 ≠ ledgerPlaintextMagic) := by
    rw [take_left' magic]
    simp [magic]
  unfold decodeLedger
  rw [if_neg header, drop_left' magic]
  apply complete_reads
  refine reads_bind (reads_u32 _ small) ?_
  refine reads_check (check_true _ (decide_eq_true size)) ?_
  exact reads_sorted_map wroteRecords
    (fun built key record chunk found fresh wrote => reads_record (valid key record found) fresh wrote)

-- The marker events differ in their tag only; the checkpoint carries numbers.
def EventOk : JournalEvent → Prop
  | .intent mark | .commit mark | .abort mark => validateMarker mark = .ok () ∧ mark.generation < 2 ^ 64
  | .checkpoint point => point.generation < 2 ^ 64 ∧ point.retainedRequests < 2 ^ 64 ∧ LastCommitOk point.lastCommit

theorem decode_marker_event (tag : UInt8) (build : CommitMarker → JournalEvent) {encoded : Bytes}
    (choose : ∀ rest, decodeJournalEvent (tag :: rest) =
      complete .corruptState (decodeMarker >>= fun read => pure (build read)) rest)
    (wrote : encodeMarker mark = .ok encoded) (valid : validateMarker mark = .ok ())
    (bounded : mark.generation < 2 ^ 64) : decodeJournalEvent (tag :: encoded) = .ok (build mark) := by
  rw [choose]
  exact complete_reads _ _ _ _ (reads_map decodeMarker build encoded mark
    (reads_marker wrote valid bounded))

theorem decode_encode_event {event : JournalEvent} {bytes : Bytes} (written : encodeJournalEvent event = .ok bytes)
    (valid : EventOk event) : decodeJournalEvent bytes = .ok event := by
  cases event with
  | intent mark =>
    obtain ⟨encoded, wrote, written⟩ := @bind_ok _ _ _ _ _ _ written
    cases written
    exact decode_marker_event 1 .intent (fun _ => rfl) wrote valid.1 valid.2
  | commit mark =>
    obtain ⟨encoded, wrote, written⟩ := @bind_ok _ _ _ _ _ _ written
    cases written
    exact decode_marker_event 2 .commit (fun _ => rfl) wrote valid.1 valid.2
  | abort mark =>
    obtain ⟨encoded, wrote, written⟩ := @bind_ok _ _ _ _ _ _ written
    cases written
    exact decode_marker_event 3 .abort (fun _ => rfl) wrote valid.1 valid.2
  | checkpoint point =>
    obtain ⟨_, wrote, written⟩ := @bind_ok _ _ _ _ _ _ written
    cases written
    obtain ⟨gen, retained, lastOk⟩ := valid
    apply complete_reads
    refine @reads_bind _ _ _ _ _ [4] _ 4 _ (reads_u8 4) ?_
    refine reads_map decodeCheckpoint JournalEvent.checkpoint _ point ?_
    refine reads_bind (reads_u64 _ gen) ?_
    refine reads_bind (reads_u64 _ retained) ?_
    refine reads_bind (reads_last_commit _ _ wrote lastOk) ?_
    exact reads_map readArray32 (fun digest => (⟨point.generation, point.retainedRequests,
      point.lastCommit, digest⟩ : CheckpointMarker)) _ point.ledgerDigest (reads_array32 _)

theorem terminal_event_length {bytes : Bytes} (written : encodeJournalEvent (.intent mark) = .ok bytes) :
    (∃ commit, encodeJournalEvent (.commit mark) = .ok commit ∧ commit.length = bytes.length) ∧
      ∃ abort, encodeJournalEvent (.abort mark) = .ok abort ∧ abort.length = bytes.length := by
  obtain ⟨encoded, wrote, written⟩ := bind_ok written
  cases written
  refine ⟨⟨2 :: encoded, ?_, rfl⟩, 3 :: encoded, ?_, rfl⟩
  · simp only [encodeJournalEvent, wrote]
    rfl
  · simp only [encodeJournalEvent, wrote]
    rfl

end HeptaBao.Durable
