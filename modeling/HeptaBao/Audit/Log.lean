import HeptaBao.Durable.Validate
import HeptaBao.Exec.Runs
import HeptaBao.Wire.Base64
import HeptaBao.Wire.Json

namespace HeptaBao.Audit

open Wire Wire.Json Durable Exec Tail

def maxAuditBytes : Nat := 32 * 1024 * 1024

structure AuditUnsigned where
  schema : UInt32
  sequence : UInt64
  previous : Str
  time : UInt64
  kind : Str
  pathDigest : Str
  status : Option UInt16
deriving DecidableEq

structure AuditRecord where
  event : AuditUnsigned
  mac : Str
deriving DecidableEq

def u64Json : Format UInt64 := number.map UInt64.ofNat UInt64.toNat (fun _ => UInt64.ofNat_toNat)
def u32Json : Format UInt32 := number.map UInt32.ofNat UInt32.toNat (fun _ => UInt32.ofNat_toNat)
def u16Json : Format UInt16 := number.map UInt16.ofNat UInt16.toNat (fun _ => UInt16.ofNat_toNat)

def statusJson : Format (Option UInt16) :=
  u16Json.option fun value => number_apart value.toNat

def eventJson : Format AuditUnsigned :=
  (first (str "schema") u32Json (later (str "sequence") u64Json
    (later (str "previous") text (later (str "time") u64Json
      (later (str "kind") text (later (str "path_digest") text
        (later (str "status") statusJson closing))))))).toFormat.map
    (fun (schema, seq, prev, time, kind, pathDigest, status, _) => ⟨schema, seq, prev, time, kind, pathDigest, status⟩)
    (fun event => (event.schema, event.sequence, event.previous, event.time, event.kind, event.pathDigest, event.status, ())) (fun _ => rfl)

def recordJson : Format AuditRecord :=
  (first (str "event") eventJson (later (str "mac") text
    closing)).toFormat.map
    (fun (event, mac, _) => ⟨event, mac⟩) (fun record => (record.event, record.mac, ())) (fun _ => rfl)

structure Frontier where
  sequence : UInt64
  mac : Digest
deriving DecidableEq

-- Signing under the audit key, and serde_json's reader for a record.
structure Library where
  sign : Bytes → Digest
  readRecord : Bytes → Option AuditRecord

variable (lib : Library) (front : Frontier)

def verifyLine (line : Bytes) : Except Str Frontier :=
  match lib.readRecord line with
  | none => .error (str "unsupported or corrupt authenticated audit format")
  | some record =>
    if record.event.schema ≠ 2 ∨ record.event.sequence.toNat ≠ front.sequence.toNat + 1 ∨
        record.event.previous ≠ Base64.encode front.mac.bytes then .error (str "audit chain is inconsistent")
    else
      match Base64.decode record.mac with
      | none => .error (str "invalid audit authenticator")
      | some tag =>
        if sized : tag.length = 32 then
          if lib.sign (eventJson.toVec record.event) = ⟨tag, sized⟩ then .ok ⟨record.event.sequence, ⟨tag, sized⟩⟩
          else .error (str "audit authentication failed")
        else .error (str "invalid audit authenticator length")

def auditLines (bytes : Bytes) : List Bytes := (bytes.splitOn 10).takeWhile (· ≠ [])

def verifyAuditFrom (bytes : Bytes) (start : Frontier) : Except Str Frontier :=
  if maxAuditBytes < bytes.length then .error (str "audit capacity exceeded")
  else if bytes ≠ [] ∧ bytes.getLast? ≠ some 10 then .error (str "audit is truncated or oversized; preserve evidence for recovery")
  else if [10, 10] <:+: bytes ∨ bytes.head? = some 10 then .error (str "audit contains empty records")
  else (auditLines bytes).foldlM (verifyLine lib) start

-- One call of audit_event. Its texts are UTF-8, as every String is.
structure AuditCall where
  kind : Str
  fingerprint : Str
  now : UInt64
  status : Option UInt16
  kindText : utf8Valid kind = true
  fingerprintText : utf8Valid fingerprint = true

instance : DecidableEq AuditCall := fun a b =>
  decidable_of_iff ((a.kind, a.fingerprint, a.now, a.status) = (b.kind, b.fingerprint, b.now, b.status)) (by cases a; cases b; simp)

structure Segment where
  bytes : Bytes
  start : Frontier
  stop : Frontier

structure AuditLog where
  file : Bytes
  start : Frontier
  front : Frontier
  failed : Bool
  archived : List Segment

def unsignedEvent (call : AuditCall) : AuditUnsigned :=
  ⟨2, front.sequence + 1, Base64.encode front.mac.bytes, call.now, call.kind, call.fingerprint, call.status⟩

def signedRecord (event : AuditUnsigned) : AuditRecord :=
  ⟨event, Base64.encode (lib.sign (eventJson.toVec event)).bytes⟩

def recordLine (record : AuditRecord) : Bytes := recordJson.toVec record ++ [10]

inductive Fault where
  | rotation
  | write (part : Nat)

def rotate (log : AuditLog) : Option AuditLog :=
  if verifyAuditFrom lib log.file log.start = .ok log.front ∧ log.start.sequence < log.front.sequence then
    some { log with file := [], start := log.front, archived := log.archived ++ [⟨log.file, log.start, log.front⟩] }
  else none

variable (segmentBytes : Nat)

def beforeAppend (added : Nat) (log : AuditLog) : Option AuditLog :=
  if segmentBytes < added then none
  else if log.file.length + added ≤ segmentBytes then some log
  else rotate lib log

-- A rotation may also fail on the way.
def readied (added : Nat) (log : AuditLog) : Option Fault → Option AuditLog
  | some .rotation => none
  | _ => beforeAppend lib segmentBytes added log

def auditEvent (log : AuditLog) (call : AuditCall) (fault : Option Fault) : Bool × AuditLog :=
  if log.failed = true ∨ log.front.sequence.toNat + 1 = 2 ^ 64 then (false, log)
  else
    let event := unsignedEvent log.front call
    let bytes := recordLine (signedRecord lib event)
    match readied lib segmentBytes bytes.length log fault with
    | none => (false, { log with failed := true })
    | some ready =>
      match fault with
      | some (.write part) => (false, { ready with file := ready.file ++ bytes.take part, failed := true })
      | _ => (true, { ready with
          file := ready.file ++ bytes, front := ⟨event.sequence, lib.sign (eventJson.toVec event)⟩ })

def reached (call : AuditCall) : Frontier :=
  ⟨front.sequence + 1, lib.sign (eventJson.toVec (unsignedEvent front call))⟩

-- The calls that sign in turn from a frontier on, each with the frontier it signs at.
def signedSteps (lib : Library) : Frontier → List AuditCall → List (Frontier × AuditCall)
  | _, [] => []
  | front, call :: calls =>
    if front.sequence.toNat + 1 = 2 ^ 64 then [] else (front, call) :: signedSteps lib (reached lib front call) calls

def signedChain (calls : List AuditCall) : List AuditUnsigned :=
  (signedSteps lib front calls).map fun step => unsignedEvent step.1 step.2

end HeptaBao.Audit
