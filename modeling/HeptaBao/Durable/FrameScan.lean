import HeptaBao.Durable.Frames

namespace HeptaBao.Durable

open Wire Std List Reader

variable {env : Env} {nonce : Nat} {ctx plaintext sealed : Bytes}

theorem seal_with_some (succeeds : sealWith env nonce ctx plaintext = .ok sealed) :
    env.sealBytes nonce ctx plaintext = some sealed := by
  unfold sealWith at succeeds
  cases res : env.sealBytes nonce ctx plaintext with
  | none =>
    rw [res] at succeeds
    cases succeeds
  | some =>
    rw [res] at succeeds
    cases succeeds
    rfl

theorem open_sealed (laws : BarrierLaws env)
    (succeeds : sealWith env nonce ctx plaintext = .ok sealed) : openWith env ctx sealed = .ok plaintext := by
  obtain ⟨_, sealedAs, opened⟩ := laws.opens nonce ctx plaintext
  have same := seal_with_some succeeds
  rw [sealedAs] at same
  cases same
  simp [openWith, opened]

variable {plaintext' : Bytes}

theorem reseal (laws : BarrierLaws env) (nonce' : Nat) (context' : Bytes)
    (lengths : plaintext'.length = plaintext.length)
    (succeeds : sealWith env nonce ctx plaintext = .ok sealed) :
    ∃ sealed', sealWith env nonce' context' plaintext' = .ok sealed' ∧ sealed'.length = sealed.length := by
  obtain ⟨sealed', sealedAs, _⟩ := laws.opens nonce' context' plaintext'
  refine ⟨sealed', by simp [sealWith, sealedAs], ?_⟩
  exact laws.length _ _ _ _ _ _ _ _ lengths sealedAs (seal_with_some succeeds)

theorem rewrite_bytes {value value' bytes : Bytes} (lengths : value'.length = value.length)
    (written : writeBytes value = .ok bytes) :
    ∃ bytes', writeBytes value' = .ok bytes' ∧ bytes'.length = bytes.length := by
  obtain ⟨_, rfl⟩ := write_bytes_eq written
  refine ⟨little 4 value'.length ++ value', ?_, by simp [lengths]⟩
  rw [writeBytes, if_pos (by omega)]

variable {gen : Nat}

theorem open_file_sealed (laws : BarrierLaws env) {magic domain : Bytes} {ctx : Nat → Bytes}
    {encoded : Bytes} (magicLength : magic.length = 4) (bounded : gen < 2 ^ 64)
    (written : sealedFile env magic domain (ctx gen) nonce gen plaintext = .ok encoded)
    (fits : encoded.length ≤ maxFileBytes) :
    encoded.take 4 = magic ∧ openFile env magic domain ctx encoded = .ok (gen, plaintext) := by
  obtain ⟨sealed, sealedAs, written⟩ := bind_ok written
  obtain ⟨body, wroteBody, written⟩ := bind_ok written
  cases written
  obtain ⟨_, bodyEq⟩ := write_bytes_eq wroteBody
  generalize checksumEq : digest32 env domain (magic ++ (little 8 gen ++ body)) = checksum at fits ⊢
  have bodyLength : body.length = 4 + sealed.length := by simp [bodyEq]
  have sealedFits : sealed.length ≤ maxFileBytes := by
    simp only [length_append, checksum.size] at fits
    omega
  have length : (magic ++ (little 8 gen ++ body) ++ checksum.bytes).length - 32 = (magic ++ (little 8 gen ++ body)).length := by
    simp only [length_append, checksum.size]
    omega
  have head : (magic ++ (little 8 gen ++ body) ++ checksum.bytes).take 4 = magic := by
    rw [append_assoc, take_left' magicLength]
  have header : ¬ ((magic ++ (little 8 gen ++ body) ++ checksum.bytes).length < 4 + 8 + 4 + 32 ∨
      (magic ++ (little 8 gen ++ body) ++ checksum.bytes).take 4 ≠ magic) := by
    intro bad
    rcases bad with short | wrong
    · simp only [length_append, checksum.size, magicLength, little_length, bodyLength] at short
      omega
    · exact wrong head
  have parsed : complete .corruptState readFile (little 8 gen ++ body) = .ok (gen, sealed) := by
    apply complete_reads
    refine reads_bind (reads_u64 _ bounded) ?_
    exact reads_map (readBytes maxFileBytes) (fun bytes => (gen, bytes)) body sealed
      (reads_bytes maxFileBytes wroteBody sealedFits)
  refine ⟨head, ?_⟩
  unfold openFile
  rw [if_neg header, length, take_left, drop_left, checksumEq, if_neg (by simp), drop_left' magicLength, parsed]
  change (openWith env (ctx gen) sealed >>= fun plaintext => pure (gen, plaintext)) = _
  rw [open_sealed laws sealedAs]
  rfl

theorem reseal_file (laws : BarrierLaws env) {magic domain : Bytes} (context' : Bytes) (nonce' : Nat)
    (generation' : Nat) {encoded : Bytes}
    (lengths : plaintext'.length = plaintext.length)
    (written : sealedFile env magic domain ctx nonce gen plaintext = .ok encoded) :
    ∃ encoded', sealedFile env magic domain context' nonce' generation' plaintext' = .ok encoded' ∧
      encoded'.length = encoded.length := by
  obtain ⟨_, sealedAs, written⟩ := bind_ok written
  obtain ⟨_, wroteBody, written⟩ := bind_ok written
  cases written
  obtain ⟨_, sealedAs', sealedLength⟩ := reseal laws nonce' context' lengths sealedAs
  obtain ⟨_, wroteBody', bodyLength⟩ := rewrite_bytes sealedLength wroteBody
  refine ⟨_, by simp only [sealedFile, sealedAs', bind, Except.bind, wroteBody']; rfl, ?_⟩
  simp [Digest.size, bodyLength]

theorem decode_sealed_snapshot (laws : BarrierLaws env) {snap : Snapshot} {encoded : Bytes}
    (written : sealedSnapshot env nonce snap = .ok encoded) (valid : SnapshotOk snap)
    (fits : encoded.length ≤ maxFileBytes) : decodeSnapshotFrame env encoded = .ok snap := by
  obtain ⟨plaintext, wrote, written⟩ := bind_ok written
  obtain ⟨head, opened⟩ := open_file_sealed laws rfl valid.generation written fits
  have current : encoded.take 4 ≠ legacySnapshotMagic := by
    rw [head]
    decide
  unfold decodeSnapshotFrame
  rw [if_neg current, opened]
  change (decodeSnapshot plaintext >>= fun read =>
    if read.generation ≠ snap.generation then Except.error ServiceError.corruptState else Except.ok read) = _
  rw [decode_encode_snapshot wrote valid]
  exact if_neg (by simp)

theorem decode_sealed_ledger (laws : BarrierLaws env) {ledger : Ledger} {encoded : Bytes}
    (written : sealedLedger env nonce gen ledger = .ok encoded) (bounded : gen < 2 ^ 64)
    (valid : ∀ key record, ledger[key]? = some record → RecordOk key record) (size : ledger.size ≤ maxRecords)
    (fits : encoded.length ≤ maxFileBytes) : decodeLedgerFrame env encoded = .ok (gen, ledger) := by
  obtain ⟨plaintext, wrote, written⟩ := bind_ok written
  obtain ⟨_, opened⟩ := open_file_sealed laws rfl bounded written fits
  unfold decodeLedgerFrame
  rw [opened]
  change (decodeLedger plaintext >>= fun read => pure (gen, read)) = _
  rw [decode_encode_ledger wrote valid size]
  rfl

theorem reseal_ledger (laws : BarrierLaws env) (nonce' : Nat) {ledger : Ledger} {encoded : Bytes}
    (written : sealedLedger env nonce gen ledger = .ok encoded) :
    ∃ encoded', sealedLedger env nonce' gen ledger = .ok encoded' ∧ encoded'.length = encoded.length := by
  obtain ⟨_, wrote, written⟩ := bind_ok written
  obtain ⟨encoded', written', length⟩ := reseal_file laws (ledgerContext gen) nonce' gen rfl written
  refine ⟨encoded', ?_, length⟩
  simp only [sealedLedger, wrote, bind, Except.bind]
  exact written'

theorem sealed_record_frame (laws : BarrierLaws env) {seq : Nat} {event : JournalEvent} {encoded : Bytes}
    (written : sealedJournalRecord env nonce seq event = .ok encoded) (valid : EventOk event)
    (bounded : seq < 2 ^ 64) : ∃ frame, encoded = little 4 frame.length ++ frame ∧ 8 + 4 + 32 ≤ frame.length ∧
      frame.length < 2 ^ 32 ∧ (frame.length ≤ maxFileBytes → decodeJournalFrame env seq frame = .ok event) := by
  obtain ⟨plaintext, wrote, written⟩ := bind_ok written
  obtain ⟨sealed, sealedAs, written⟩ := bind_ok written
  obtain ⟨body, wroteBody, written⟩ := bind_ok written
  obtain ⟨_, wroteLength, written⟩ := bind_ok written
  cases written
  obtain ⟨small, rfl⟩ := encode_count_eq wroteLength
  obtain ⟨_, bodyEq⟩ := write_bytes_eq wroteBody
  have bodyLength : body.length = 4 + sealed.length := by simp [bodyEq]
  generalize checksumEq : digest32 env journalFrameDomain (little 8 seq ++ body) = checksum
  have frameEq : journalFrame env seq body = (little 8 seq ++ body) ++ checksum.bytes := by
    rw [← checksumEq]
    rfl
  have frameLength : (journalFrame env seq body).length = 8 + body.length + 32 := by
    simp only [frameEq, length_append, little_length, checksum.size]
  refine ⟨journalFrame env seq body, rfl, by omega, small, ?_⟩
  intro fits
  have cut : (journalFrame env seq body).length - 32 = (little 8 seq ++ body).length := by
    rw [frameLength]
    simp
  have parsed : complete .corruptState (readU64 >>= fun read =>
      Reader.lift (check (read = seq)) >>= fun _ => readBytes maxFileBytes) (little 8 seq ++ body) = .ok sealed := by
    apply complete_reads
    refine reads_bind (reads_u64 _ bounded) ?_
    exact reads_check (check_true _ (by simp))
      (reads_bytes maxFileBytes wroteBody (by omega))
  unfold decodeJournalFrame
  rw [cut, frameEq, take_left, drop_left, checksumEq, if_neg (by simp), parsed]
  change (openWith env (journalContext seq) sealed >>= decodeJournalEvent) = _
  rw [open_sealed laws sealedAs]
  exact decode_encode_event wrote valid

theorem reseal_record (laws : BarrierLaws env) (nonce' : Nat) {seq : Nat} (sequence' : Nat)
    {event event' : JournalEvent} {encoded : Bytes} (wrote : encodeJournalEvent event = .ok plaintext)
    (wrote' : encodeJournalEvent event' = .ok plaintext') (lengths : plaintext'.length = plaintext.length)
    (written : sealedJournalRecord env nonce seq event = .ok encoded) :
    ∃ encoded', sealedJournalRecord env nonce' sequence' event' = .ok encoded' ∧ encoded'.length = encoded.length := by
  obtain ⟨_, wroteAgain, written⟩ := bind_ok written
  rw [wrote] at wroteAgain
  cases wroteAgain
  obtain ⟨_, sealedAs, written⟩ := bind_ok written
  obtain ⟨body, wroteBody, written⟩ := bind_ok written
  obtain ⟨_, wroteLength, written⟩ := bind_ok written
  cases written
  obtain ⟨_, sealedAs', sealedLength⟩ := reseal laws nonce' (journalContext sequence') lengths sealedAs
  obtain ⟨body', wroteBody', bodyLength⟩ := rewrite_bytes sealedLength wroteBody
  obtain ⟨small, rfl⟩ := encode_count_eq wroteLength
  have frameLength : (journalFrame env sequence' body').length = (journalFrame env seq body).length := by
    simp [journalFrame, Digest.size, bodyLength]
  refine ⟨little 4 (journalFrame env sequence' body').length ++ journalFrame env sequence' body', ?_, by simp [frameLength]⟩
  simp only [sealedJournalRecord, wrote', sealedAs', wroteBody', bind, Except.bind, encodeCount, frameLength, if_pos small]
  rfl

def Frames (env : Env) : Nat → List JournalEvent → Bytes → Prop
  | _, [], bytes => bytes = []
  | seq, event :: events, bytes => ∃ nonce record rest,
      sealedJournalRecord env nonce seq event = .ok record ∧ bytes = record ++ rest ∧ Frames env (seq + 1) events rest

variable {events : List JournalEvent}

theorem frames_snoc (seq : Nat) {event : JournalEvent} (bytes : Bytes) {record : Bytes}
    (frames : Frames env seq events bytes)
    (written : sealedJournalRecord env nonce (seq + events.length) event = .ok record) :
    Frames env seq (events ++ [event]) (bytes ++ record) := by
  induction events generalizing seq bytes with
  | nil =>
    cases frames
    exact ⟨nonce, record, [], written, by simp, rfl⟩
  | cons _ events ih =>
    obtain ⟨firstNonce, firstRecord, rest, firstWritten, rfl, later⟩ := frames
    have shifted : sealedJournalRecord env nonce (seq + 1 + events.length) event = .ok record := by
      rw [← written, length_cons]
      congr 1
      omega
    exact ⟨firstNonce, firstRecord, rest ++ record, firstWritten, by simp, ih (seq + 1) rest later shifted⟩

-- An interrupted append leaves nothing or a strict part of one record at the end.
def TornTail (env : Env) (tail : Bytes) : Prop :=
  tail = [] ∨ ∃ nonce seq event record count, EventOk event ∧ seq < 2 ^ 64 ∧
    sealedJournalRecord env nonce seq event = .ok record ∧ record.length ≤ maxFileBytes ∧ count < record.length ∧ tail = record.take count

theorem scan_torn_tail (laws : BarrierLaws env) {tail : Bytes} (torn : TornTail env tail) (fuel : Nat)
    {journal : Journal}
    (closed : journal.incompleteTail = false) (enough : tail.length ≤ fuel) :
    scanJournal env fuel tail journal = .ok { journal with incompleteTail := tail ≠ [] } := by
  cases fuel with
  | zero =>
    have empty : tail = [] := length_eq_zero_iff.mp (by omega)
    subst empty
    cases journal
    simp_all [scanJournal]
  | succ =>
    by_cases empty : tail = []
    · subst empty
      cases journal
      simp_all [scanJournal]
    · rcases torn with absent | ⟨nonce, seq, event, record, count, valid, bounded, written, fits, short, shape⟩
      · exact absurd absent empty
      · obtain ⟨frame, recordEq, _, small, _⟩ := sealed_record_frame laws written valid bounded
        have recordLength : record.length = 4 + frame.length := by simp [recordEq]
        have tailLength : tail.length = count := by simp [shape]; omega
        unfold scanJournal
        rw [if_neg empty]
        by_cases tiny : tail.length < 4
        · simp [if_pos tiny, empty]
        · have lengthRead : fromLittle (tail.take 4) = frame.length := by
            rw [shape, take_take, Nat.min_eq_left (by omega), recordEq, take_left' (little_length 4 _), from_little 4 _ (by simpa using small)]
          rw [if_neg tiny, lengthRead, if_neg (by omega), if_pos (by rw [length_drop]; omega)]
          simp [empty]

theorem scan_frames (laws : BarrierLaws env) (bytes : Bytes) {tail : Bytes} (fuel : Nat) (journal : Journal)
    (closed : journal.incompleteTail = false)
    (frames : Frames env journal.expectedSequence events bytes) (valid : ∀ event ∈ events, EventOk event)
    (torn : TornTail env tail) (fits : bytes.length ≤ maxFileBytes)
    (sequences : journal.expectedSequence + events.length < 2 ^ 64)
    (records : journal.events.length + events.length ≤ maxRecords) (enough : (bytes ++ tail).length ≤ fuel) :
    scanJournal env fuel (bytes ++ tail) journal = .ok ⟨journal.expectedSequence + events.length,
      journal.events ++ events, journal.verifiedBytes + bytes.length, tail ≠ []⟩ := by
  induction events generalizing bytes fuel journal with
  | nil =>
    cases frames
    rw [nil_append, scan_torn_tail laws torn fuel closed (by simpa using enough)]
    simp
  | cons event _ ih =>
    obtain ⟨_, record, rest, written, rfl, later⟩ := frames
    simp only [length_cons] at sequences records
    obtain ⟨frame, recordEq, _, small, decodes⟩ := sealed_record_frame laws written (valid event mem_cons_self) (by omega)
    have recordLength : record.length = 4 + frame.length := by simp [recordEq]
    simp only [length_append] at fits enough
    have frameFits : frame.length ≤ maxFileBytes := by omega
    obtain ⟨fuel, rfl⟩ : ∃ left, fuel = left + 1 := ⟨fuel - 1, by omega⟩
    have shape : record ++ rest ++ tail = little 4 frame.length ++ (frame ++ (rest ++ tail)) := by simp [recordEq]
    have lengthRead : fromLittle ((record ++ rest ++ tail).take 4) = frame.length := by
      rw [shape, take_left' (little_length 4 _), from_little 4 _ (by simpa using small)]
    have dropped : (record ++ rest ++ tail).drop 4 = frame ++ (rest ++ tail) := by
      rw [shape, drop_left' (little_length 4 _)]
    have nonempty : record ++ rest ++ tail ≠ [] := by
      intro empty
      have zero := congrArg List.length empty
      simp only [length_append, length_nil] at zero
      omega
    have next : checkedAdd journal.expectedSequence 1 = some (journal.expectedSequence + 1) := checked_add_small _ _ (by omega)
    unfold scanJournal
    rw [if_neg nonempty, if_neg (by simp only [length_append]; omega), lengthRead, if_neg (by omega), dropped,
      if_neg (by simp only [length_append]; omega), take_left, decodes frameFits, drop_left]
    simp only [bind, Except.bind, next]
    rw [if_neg (by simp only [length_append, length_singleton]; omega)]
    rw [ih rest fuel ⟨journal.expectedSequence + 1, journal.events ++ [event], journal.verifiedBytes + 4 + frame.length, false⟩
      rfl later (fun other member => valid other (mem_cons_of_mem _ member)) (by omega) (by simp only; omega)
      (by simp only [length_append, length_singleton]; omega) (by simp only [length_append]; omega)]
    simp only [length_cons, length_append, recordLength, append_assoc, singleton_append]
    congr 2
    · omega
    · omega

theorem decode_journal (laws : BarrierLaws env) (events : List JournalEvent) (bytes tail : Bytes)
    (frames : Frames env 1 events bytes) (valid : ∀ event ∈ events, EventOk event) (torn : TornTail env tail)
    (fits : bytes.length ≤ maxFileBytes) (records : events.length ≤ maxRecords) :
      decodeJournalFrames env (journalMagic ++ (bytes ++ tail)) =
      .ok ⟨1 + events.length, events, 4 + bytes.length, tail ≠ []⟩ := by
  have magic : journalMagic.length = 4 := rfl
  unfold decodeJournalFrames
  rw [take_left' magic, if_neg (by simp), drop_left' magic]
  have small : events.length ≤ 1000000 := records
  rw [scan_frames laws bytes _ ⟨1, [], 4, false⟩ rfl frames valid torn fits (by simp only; omega)
    (by simpa using records) (by simp)]
  simp

end HeptaBao.Durable
