import HeptaBao.Durable.RoundTrip

namespace HeptaBao.Durable

open Wire Std

def snapshotMagic : Bytes := str "HBS2"
def legacySnapshotMagic : Bytes := str "HBS1"
def journalMagic : Bytes := str "HBJ2"
def ledgerMagic : Bytes := str "HBL2"

def snapshotFrameDomain : Bytes := str "heptabao.durable-service.snapshot-frame.v2"
def journalFrameDomain : Bytes := str "heptabao.durable-service.journal-frame.v2"
def ledgerFrameDomain : Bytes := str "heptabao.durable-service.ledger-frame.v2"

def contextWithU64 (domain : Bytes) (value : Nat) : Bytes := domain ++ little 8 value

def snapshotContext (gen : Nat) : Bytes := contextWithU64 (str "heptabao.durable-service.snapshot.v2") gen
def journalContext (seq : Nat) : Bytes := contextWithU64 (str "heptabao.durable-service.journal.v2") seq
def ledgerContext (gen : Nat) : Bytes := contextWithU64 (str "heptabao.durable-service.ledger.v2") gen

variable (env : Env) (nonce : Nat)

def sealWith (ctx plaintext : Bytes) : Except ServiceError Bytes :=
  match env.sealBytes nonce ctx plaintext with
  | some sealed => .ok sealed
  | none => .error .barrierFailure

def openWith (ctx sealed : Bytes) : Except ServiceError Bytes :=
  match env.openBytes ctx sealed with
  | some plaintext => .ok plaintext
  | none => .error .barrierFailure

def sealedFile (magic domain ctx : Bytes) (nonce gen : Nat) (plaintext : Bytes) :
    Except ServiceError Bytes := do
  let sealed ← sealWith env nonce ctx plaintext
  let body ← writeBytes sealed
  let encoded := magic ++ (little 8 gen ++ body)
  return encoded ++ (digest32 env domain encoded).bytes

def readFile : Cursor (Nat × Bytes) := do
  let gen ← readU64
  let sealed ← readBytes maxFileBytes
  return (gen, sealed)

def openFile (magic domain : Bytes) (ctx : Nat → Bytes) (encoded : Bytes) :
    Except ServiceError (Nat × Bytes) :=
  if encoded.length < 4 + 8 + 4 + 32 ∨ encoded.take 4 ≠ magic then .error .corruptState
  else if (digest32 env domain (encoded.take (encoded.length - 32))).bytes ≠ encoded.drop (encoded.length - 32) then
    .error .corruptState
  else do
    let frame ← Reader.complete .corruptState readFile ((encoded.take (encoded.length - 32)).drop 4)
    let plaintext ← openWith env (ctx frame.1) frame.2
    return (frame.1, plaintext)

def sealedSnapshot (snap : Snapshot) : Except ServiceError Bytes := do
  let plaintext ← encodeSnapshot snap
  sealedFile env snapshotMagic snapshotFrameDomain (snapshotContext snap.generation) nonce snap.generation plaintext

def decodeSnapshotFrame (encoded : Bytes) : Except ServiceError Snapshot :=
  if encoded.take 4 = legacySnapshotMagic then .error .legacySchema
  else do
    let frame ← openFile env snapshotMagic snapshotFrameDomain snapshotContext encoded
    let snap ← decodeSnapshot frame.2
    if snap.generation ≠ frame.1 then .error .corruptState else .ok snap

def sealedLedger (gen : Nat) (ledger : Ledger) : Except ServiceError Bytes := do
  let plaintext ← encodeLedger ledger
  sealedFile env ledgerMagic ledgerFrameDomain (ledgerContext gen) nonce gen plaintext

def decodeLedgerFrame (encoded : Bytes) : Except ServiceError (Nat × Ledger) := do
  let frame ← openFile env ledgerMagic ledgerFrameDomain ledgerContext encoded
  let ledger ← decodeLedger frame.2
  return (frame.1, ledger)

def journalFrame (seq : Nat) (body : Bytes) : Bytes :=
  (little 8 seq ++ body) ++ (digest32 env journalFrameDomain (little 8 seq ++ body)).bytes

def sealedJournalRecord (seq : Nat) (event : JournalEvent) : Except ServiceError Bytes := do
  let plaintext ← encodeJournalEvent event
  let sealed ← sealWith env nonce (journalContext seq) plaintext
  let body ← writeBytes sealed
  let length ← encodeCount (journalFrame env seq body).length
  return length ++ journalFrame env seq body

def decodeJournalFrame (expected : Nat) (frame : Bytes) : Except ServiceError JournalEvent :=
  if (digest32 env journalFrameDomain (frame.take (frame.length - 32))).bytes ≠ frame.drop (frame.length - 32) then
    .error .corruptState
  else do
    let sealed ← Reader.complete .corruptState (do
      let seq ← readU64
      Reader.lift (check (seq = expected))
      readBytes maxFileBytes) (frame.take (frame.length - 32))
    let plaintext ← openWith env (journalContext expected) sealed
    decodeJournalEvent plaintext

structure Journal where
  expectedSequence : Nat
  events : List JournalEvent
  verifiedBytes : Nat
  incompleteTail : Bool

-- Every round but the last consumes four bytes, so the file's length is fuel enough.
def scanJournal (env : Env) : Nat → Bytes → Journal → Except ServiceError Journal
  | 0, _, journal => .ok journal
  | fuel + 1, input, journal =>
    if input = [] then .ok journal
    else if input.length < 4 then .ok { journal with incompleteTail := true }
    else if fromLittle (input.take 4) < 8 + 4 + 32 ∨ maxFileBytes < fromLittle (input.take 4) then
      .error .corruptState
    else if (input.drop 4).length < fromLittle (input.take 4) then .ok { journal with incompleteTail := true }
    else do
      let event ← decodeJournalFrame env journal.expectedSequence ((input.drop 4).take (fromLittle (input.take 4)))
      match checkedAdd journal.expectedSequence 1 with
      | none => .error .generationOverflow
      | some next =>
        if maxRecords < (journal.events ++ [event]).length then .error .corruptState
        else
          scanJournal env fuel ((input.drop 4).drop (fromLittle (input.take 4)))
            ⟨next, journal.events ++ [event], journal.verifiedBytes + 4 + fromLittle (input.take 4), false⟩

def decodeJournalFrames (encoded : Bytes) : Except ServiceError Journal :=
  if encoded.take 4 ≠ journalMagic then .error .corruptState
  else scanJournal env encoded.length (encoded.drop 4) ⟨1, [], 4, false⟩

end HeptaBao.Durable
