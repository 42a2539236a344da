import HeptaBao.Audit.Evidence
import HeptaBao.Hash.Digests

namespace HeptaBao.Audit

open Wire Wire.Json Durable Exec List

variable {front origin : Frontier} {call : AuditCall} {calls : List AuditCall}

section Origin

variable (lib : Library)

structure Verified (bytes : Bytes) (record : AuditRecord) : Prop where
  line : ∃ line ∈ auditLines bytes, lib.readRecord line = some record
  tag : Base64.decode record.mac = some (lib.sign (eventJson.toVec record.event)).bytes

-- The payload bytes are those that a call of the list had signed.
def Produced (signed : List (Frontier × AuditCall)) (payload : Bytes) : Prop :=
  ∃ step ∈ signed, payload = eventJson.toVec (unsignedEvent step.1 step.2)

theorem payload_injective {a b : AuditUnsigned} (same : eventJson.toVec a = eventJson.toVec b) : a = b := by
  have read := eventJson.from_slice_to_vec a
  rw [same, eventJson.from_slice_to_vec] at read
  exact (Option.some.inj read).symm

theorem linked_tag (start stop : Frontier) (records : List AuditRecord) (linked : Linked lib start records stop) :
    ∀ record ∈ records, Base64.decode record.mac = some (lib.sign (eventJson.toVec record.event)).bytes := by
  induction linked with
  | done => simp
  | next _ _ _ _ _ extended _ ih =>
    refine forall_mem_cons.mpr ⟨?_, ih⟩
    rw [extended.mac, extended.signed]

theorem extends_reached {next : Frontier} {record : AuditRecord} (extended : Extends lib front record next)
    (produced : record.event = unsignedEvent origin call) : origin = front ∧ next = reached lib front call ∧
      front.sequence.toNat + 1 ≠ 2 ^ 64 := by
  have mac : origin.mac = front.mac := by
    have texts : Base64.encode origin.mac.bytes = Base64.encode front.mac.bytes := by
      rw [← extended.previous, produced]
      rfl
    exact Digest.ext (Base64.encode_injective _ _ texts)
  have counted : (origin.sequence + 1).toNat = front.sequence.toNat + 1 := by
    rw [← extended.sequence, produced]
    rfl
  have room := (origin.sequence + 1).toNat_lt
  have below : front.sequence.toNat + 1 ≠ 2 ^ 64 := by omega
  have next_sequence : front.sequence + 1 = origin.sequence + 1 := by
    apply UInt64.toNat_inj.mp
    rw [counted, UInt64.toNat_add]
    exact Nat.mod_eq_of_lt (by have bound := front.sequence.toNat_lt; simp; omega)
  have same : origin = front := by
    obtain ⟨seq, tag⟩ := origin
    obtain ⟨other, _⟩ := front
    cases mac
    have equal : other = seq := UInt64.add_left_inj _ |>.mp next_sequence
    rw [equal]
  refine ⟨same, ?_, below⟩
  subst same
  obtain ⟨seq, tag⟩ := next
  have numbered : seq = record.event.sequence := extended.reached
  have signed : lib.sign (eventJson.toVec record.event) = tag := extended.signed
  rw [numbered, ← signed, produced]
  rfl

theorem linked_signed (signed : List (Frontier × AuditCall)) {start stop : Frontier} {records : List AuditRecord}
    (linked : Linked lib start records stop)
    (produced : ∀ record ∈ records, Produced signed (eventJson.toVec record.event)) :
    ∃ calls, records.map AuditRecord.event = signedChain lib start calls ∧ signedSteps lib start calls ⊆ signed ∧
      calls.length = records.length ∧ (signedSteps lib start calls).length = calls.length := by
  induction linked with
  | done => exact ⟨[], rfl, nil_subset _, rfl, rfl⟩
  | next front middle _ record _ extended _ ih =>
    obtain ⟨⟨origin, call⟩, listed, same⟩ := produced record mem_cons_self
    have same := payload_injective same
    obtain ⟨here, forward, room⟩ := extends_reached lib extended same
    obtain ⟨calls, events, subset, length, complete⟩ := ih fun other member => produced other (mem_cons_of_mem _ member)
    subst here forward
    refine ⟨call :: calls, ?_, ?_, ?_, ?_⟩
    · rw [signedChain, signedSteps, if_neg room, map_cons, map_cons, events, same]
      rfl
    · rw [signedSteps, if_neg room]
      exact cons_subset.mpr ⟨listed, subset⟩
    · rw [length_cons, length_cons, length]
    · rw [signedSteps, if_neg room, length_cons, length_cons, complete]

theorem reached_sequence (front : Frontier) (call : AuditCall) (room : ¬ front.sequence.toNat + 1 = 2 ^ 64) :
    (reached lib front call).sequence.toNat = front.sequence.toNat + 1 := by
  have bound := front.sequence.toNat_lt
  rw [reached, UInt64.toNat_add]
  exact Nat.mod_eq_of_lt (by simp; omega)

theorem signed_step_rest (origin : Frontier) (listed : (front, call) ∈ signedSteps lib origin calls) :
    origin.sequence.toNat ≤ front.sequence.toNat ∧
      ∃ later, (signedSteps lib origin calls).drop (front.sequence.toNat - origin.sequence.toNat) =
        (front, call) :: signedSteps lib (reached lib front call) later := by
  induction calls generalizing origin with
  | nil => cases listed
  | cons first calls ih =>
    by_cases full : origin.sequence.toNat + 1 = 2 ^ 64
    · rw [signedSteps, if_pos full] at listed
      cases listed
    rw [signedSteps, if_neg full] at listed ⊢
    cases mem_cons.mp listed with
    | inl here =>
      cases here
      exact ⟨Nat.le_refl _, calls, by rw [Nat.sub_self]; rfl⟩
    | inr later =>
      have counted := reached_sequence lib origin first full
      obtain ⟨above, rest, dropped⟩ := ih (reached lib origin first) later
      rw [counted] at above dropped
      have offset : front.sequence.toNat - origin.sequence.toNat = front.sequence.toNat - (origin.sequence.toNat + 1) + 1 := by omega
      exact ⟨by omega, rest, by rw [offset, drop_succ_cons, dropped]⟩

theorem signed_steps_run (start : Frontier) {run : List AuditCall}
    (complete : (signedSteps lib start run).length = run.length)
    (subset : signedSteps lib start run ⊆ signedSteps lib origin calls) :
    signedSteps lib start run = ((signedSteps lib origin calls).drop
      (start.sequence.toNat - origin.sequence.toNat)).take run.length := by
  induction run generalizing start with
  | nil => rfl
  | cons call _ ih =>
    by_cases full : start.sequence.toNat + 1 = 2 ^ 64
    · rw [signedSteps, if_pos full] at complete
      cases complete
    rw [signedSteps, if_neg full, cons_subset] at subset
    rw [signedSteps, if_neg full, length_cons, length_cons, Nat.add_right_cancel_iff] at complete
    obtain ⟨_, _, dropped⟩ := signed_step_rest lib origin subset.1
    have offset : (reached lib start call).sequence.toNat - origin.sequence.toNat = start.sequence.toNat - origin.sequence.toNat + 1 := by
      rw [reached_sequence lib start call full]
      omega
    rw [signedSteps, if_neg full, length_cons, dropped, take_succ_cons, ih (reached lib start call) complete subset.2, offset,
      ← tail_drop, dropped, tail_cons]

end Origin

section Writing

variable (lib : Library) (segmentBytes : Nat)

-- serde_json reads back what it wrote.
def ReadsBack : Prop :=
  ∀ record : AuditRecord, utf8Valid record.event.previous = true → utf8Valid record.event.kind = true →
    utf8Valid record.event.pathDigest = true → utf8Valid record.mac = true → lib.readRecord (recordJson.toVec record) = some record

theorem encoded_utf8 (bytes : Bytes) : utf8Valid (Base64.encode bytes) = true := by
  refine ascii_utf8 _ (all_eq_true.mpr fun byte listed => ?_)
  have ascii : ∀ byte : UInt8, Base64.symbolByte byte = true → decide (byte < 128) = true := by decide +kernel
  exact ascii byte (Base64.encode_symbols bytes byte listed)

theorem signed_extends (front : Frontier) (call : AuditCall) (room : ¬ front.sequence.toNat + 1 = 2 ^ 64) :
    Extends lib front (signedRecord lib (unsignedEvent front call)) (reached lib front call) :=
  ⟨rfl, reached_sequence lib front call room, rfl, Base64.decode_encode _, rfl, rfl⟩

def succeeded (log : AuditLog) (event : AuditCall × Option Fault) (calls : List AuditCall) : List AuditCall :=
  if (auditEvent lib segmentBytes log event.1 event.2).1 = true then calls ++ [event.1] else calls

def step (log : AuditLog) (event : AuditCall × Option Fault) : AuditLog := (auditEvent lib segmentBytes log event.1 event.2).2

-- The archived files verify in turn, each from where the one before it ends.
inductive Archive : Frontier → List Segment → Frontier → Prop where
  | none (front : Frontier) : Archive front [] front
  | more (origin : Frontier) (segments : List Segment) (segment : Segment) (before : Archive origin segments segment.start)
      (verified : verifyAuditFrom lib segment.bytes segment.start = .ok segment.stop) : Archive origin (segments ++ [segment]) segment.stop

structure Written (origin : Frontier) (log : AuditLog) (calls : List AuditCall) : Prop where
  records : ∃ records, log.file = joinLines (records.map recordJson.toVec) ∧ Linked lib log.start records log.front ∧
    ∀ record ∈ records, lib.readRecord (recordJson.toVec record) = some record
  sized : log.file.length ≤ segmentBytes
  front : log.front = calls.foldl (reached lib) origin
  archived : Archive lib origin log.archived log.start

theorem written_verifies (bounded : segmentBytes ≤ maxAuditBytes) (origin : Frontier) (log : AuditLog)
    (calls : List AuditCall)
    (written : Written lib segmentBytes origin log calls) : verifyAuditFrom lib log.file log.start = .ok log.front := by
  obtain ⟨records, file, linked, read⟩ := written.records
  rw [file]
  exact verify_written lib linked read (by rw [← file]; exact Nat.le_trans written.sized bounded)

theorem before_append_written {log ready : AuditLog} {added : Nat} (written : Written lib segmentBytes origin log calls)
    (prepared : beforeAppend lib segmentBytes added log = some ready) :
    Written lib segmentBytes origin ready calls ∧ ready.front = log.front ∧ ready.failed = log.failed ∧
      ready.file.length + added ≤ segmentBytes := by
  rw [beforeAppend] at prepared
  by_cases large : segmentBytes < added
  · rw [if_pos large] at prepared
    cases prepared
  rw [if_neg large] at prepared
  by_cases fits : log.file.length + added ≤ segmentBytes
  · rw [if_pos fits] at prepared
    cases prepared
    exact ⟨written, rfl, rfl, fits⟩
  rw [if_neg fits, rotate] at prepared
  split at prepared
  · rename_i rotates
    cases prepared
    refine ⟨⟨⟨[], rfl, .done _, by simp⟩, Nat.zero_le _, written.front, ?_⟩, rfl, rfl, ?_⟩
    · exact .more origin log.archived ⟨log.file, log.start, log.front⟩ written.archived rotates.1
    · rw [length_nil, Nat.zero_add]
      exact Nat.not_lt.mp large
  · cases prepared

theorem step_written (reads : ReadsBack lib) (origin : Frontier) (log : AuditLog) (event : AuditCall × Option Fault)
    (calls : List AuditCall)
    (held : log.failed = false → Written lib segmentBytes origin log calls)
    (working : (step lib segmentBytes log event).failed = false) :
    Written lib segmentBytes origin (step lib segmentBytes log event) (succeeded lib segmentBytes log event calls) := by
  obtain ⟨call, fault⟩ := event
  simp only [step, succeeded, auditEvent] at working ⊢
  by_cases refused : log.failed = true ∨ log.front.sequence.toNat + 1 = 2 ^ 64
  · rw [if_pos refused] at working ⊢
    exact held working
  rw [if_neg refused] at working ⊢
  rw [not_or, Bool.not_eq_true] at refused
  have written := held refused.1
  cases prepared : readied lib segmentBytes (recordLine (signedRecord lib (unsignedEvent log.front call))).length log fault with
  | none =>
    rw [prepared] at working
    cases working
  | some ready =>
    rw [prepared] at working
    simp only at working ⊢
    have appended : beforeAppend lib segmentBytes (recordLine (signedRecord lib (unsignedEvent log.front call))).length log = some ready := by
      unfold readied at prepared
      split at prepared
      · cases prepared
      · exact prepared
    obtain ⟨kept, front, _, fits⟩ := before_append_written lib segmentBytes written appended
    obtain ⟨records, file, linked, read⟩ := kept.records
    have next := signed_extends lib log.front call refused.2
    have line := reads (signedRecord lib (unsignedEvent log.front call)) (encoded_utf8 _) call.kindText call.fingerprintText (encoded_utf8 _)
    have extended : Written lib segmentBytes origin
        { ready with file := ready.file ++ recordLine (signedRecord lib (unsignedEvent log.front call)), front := reached lib log.front call }
        (calls ++ [call]) := by
      refine ⟨⟨records ++ [signedRecord lib (unsignedEvent log.front call)], ?_, ?_, ?_⟩, ?_, ?_, kept.archived⟩
      · rw [map_append, map_singleton, join_lines_append, file]
        rfl
      · exact linked_snoc lib _ _ _ records _ linked (by rw [front]; exact next)
      · intro record listed
        cases mem_append.mp listed with
        | inl before => exact read record before
        | inr last => rw [mem_singleton.mp last]; exact line
      · rw [length_append]
        exact fits
      · rw [foldl_append, ← written.front]
        rfl
    cases fault with
    | none => exact extended
    | some fault =>
      cases fault with
      | rotation => cases prepared
      | write => cases working

theorem run_written (reads : ReadsBack lib) (origin : Frontier) (events : List (AuditCall × Option Fault)) :
    (run (step lib segmentBytes) ⟨[], origin, origin, false, []⟩ events).failed = false →
      Written lib segmentBytes origin (run (step lib segmentBytes) ⟨[], origin, origin, false, []⟩ events)
        (history (step lib segmentBytes) (succeeded lib segmentBytes) ⟨[], origin, origin, false, []⟩ [] events) := by
  refine @history_invariant _ _ _ (step lib segmentBytes) (succeeded lib segmentBytes) (fun _ _ => True)
    (fun log calls => log.failed = false → Written lib segmentBytes origin log calls) (fun log event calls _ held => ?_) _ [] events
    (fun _ => ⟨⟨[], rfl, .done _, by simp⟩, Nat.zero_le _, rfl, .none origin⟩) (along_all _ (fun _ => True) _ events fun _ _ => trivial)
  exact step_written lib segmentBytes reads origin log event calls held

end Writing

/-- What an accepted file holds was signed call by call, and what the calls write is accepted. -/
theorem audit_tamper_evident (lib : Library) (reads : ReadsBack lib) (segmentBytes : Nat)
    (bounded : segmentBytes ≤ maxAuditBytes) :
    (∀ bytes start stop, verifyAuditFrom lib bytes start = .ok stop → ∃ records,
      (auditLines bytes).map lib.readRecord = records.map some ∧ Linked lib start records stop ∧
      ∀ signed, (∀ record, Verified lib bytes record → Produced signed (eventJson.toVec record.event)) →
        (∃ calls, records.map AuditRecord.event = signedChain lib start calls ∧ signedSteps lib start calls ⊆ signed) ∧
        ∀ origin calls, signed = signedSteps lib origin calls → records.map AuditRecord.event =
          ((signedChain lib origin calls).drop (start.sequence.toNat - origin.sequence.toNat)).take records.length) ∧
            ∀ origin events,
      let log := run (step lib segmentBytes) ⟨[], origin, origin, false, []⟩ events
      let calls := history (step lib segmentBytes) (succeeded lib segmentBytes) ⟨[], origin, origin, false, []⟩ [] events
      log.failed = false → verifyAuditFrom lib log.file log.start = .ok (calls.foldl (reached lib) origin) ∧
        Archive lib origin log.archived log.start := by
  refine ⟨fun bytes start stop accepted => ?_, fun origin events working => ?_⟩
  · obtain ⟨records, read, linked⟩ := verify_accepts lib accepted
    refine ⟨records, read, linked, fun signed covers => ?_⟩
    have produced : ∀ record ∈ records, Produced signed (eventJson.toVec record.event) := by
      intro record listed
      obtain ⟨line, within, same⟩ := mem_map.mp (read ▸ mem_map_of_mem listed : some record ∈ (auditLines bytes).map lib.readRecord)
      exact covers record ⟨⟨line, within, same⟩, linked_tag lib start stop records linked record listed⟩
    obtain ⟨calls, events, subset, length, complete⟩ := linked_signed lib signed linked produced
    refine ⟨⟨calls, events, subset⟩, fun origin made same => ?_⟩
    subst same
    rw [events, signedChain, signed_steps_run lib start complete subset, signedChain, map_take, map_drop, length]
  · have written := run_written lib segmentBytes reads origin events working
    refine ⟨?_, written.archived⟩
    rw [written_verifies lib segmentBytes bounded origin _ _ written, written.front]

def hmacLibrary : Library := ⟨hmacSha256 (replicate 32 7), recordJson.fromSlice⟩

theorem hmac_reads : ReadsBack hmacLibrary := by
  intro record _ _ _ _
  simp only [hmacLibrary, Format.from_slice_to_vec]

def outset : Frontier := ⟨0, zeroDigest⟩

def requestCall : AuditCall := ⟨str "request", str "path", 1, none, by decide, by decide⟩
def responseCall : AuditCall := ⟨str "response", str "path", 2, some 200, by decide, by decide⟩

def bothWritten : AuditLog := run (step hmacLibrary 4096) ⟨[], outset, outset, false, []⟩ [(requestCall, none), (responseCall, none)]

theorem audit_tamper_evident_response :
    verifyAuditFrom hmacLibrary bothWritten.file outset =
      .ok ([requestCall, responseCall].foldl (reached hmacLibrary) outset) ∧
      ∃ records : List AuditRecord, (auditLines bothWritten.file).map hmacLibrary.readRecord = records.map some ∧
        records.map AuditRecord.event = signedChain hmacLibrary outset [requestCall, responseCall] := by
  obtain ⟨accepts, writes⟩ := audit_tamper_evident hmacLibrary hmac_reads 4096 (by rw [maxAuditBytes]; omega)
  have calls : history (step hmacLibrary 4096) (succeeded hmacLibrary 4096) ⟨[], outset, outset, false, []⟩ []
      [(requestCall, none), (responseCall, none)] = [requestCall, responseCall] := by decide +kernel
  have start : bothWritten.start = outset := by decide +kernel
  have accepted := (writes outset [(requestCall, none), (responseCall, none)] (by decide +kernel)).1
  rw [calls] at accepted
  change verifyAuditFrom hmacLibrary bothWritten.file bothWritten.start = _ at accepted
  rw [start] at accepted
  obtain ⟨records, read, _, chain⟩ := accepts bothWritten.file outset _ accepted
  have count : records.length = 2 := by
    have lines : (auditLines bothWritten.file).length = 2 := by decide +kernel
    rw [← lines, ← length_map (f := hmacLibrary.readRecord), read, length_map]
  have events := (chain (signedSteps hmacLibrary outset [requestCall, responseCall]) fun record verified => ?_).2 outset _ rfl
  · refine ⟨accepted, records, read, ?_⟩
    have whole : ((signedChain hmacLibrary outset [requestCall, responseCall]).drop (outset.sequence.toNat - outset.sequence.toNat)).take 2 =
        signedChain hmacLibrary outset [requestCall, responseCall] := by decide +kernel
    rw [events, count, whole]
  · obtain ⟨line, listed, same⟩ := verified.line
    have all : ∀ record ∈ (auditLines bothWritten.file).filterMap hmacLibrary.readRecord,
        ∃ step ∈ signedSteps hmacLibrary outset [requestCall, responseCall], eventJson.toVec record.event = eventJson.toVec (unsignedEvent step.1 step.2) := by decide +kernel
    exact all record (mem_filterMap.mpr ⟨line, listed, same⟩)

end HeptaBao.Audit
