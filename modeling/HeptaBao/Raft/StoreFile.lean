import HeptaBao.Raft.Machine

namespace HeptaBao.Raft

open Wire Durable List

-- The texts are those of InvalidData errors; `io` is an error of the file system.
inductive StoreError where
  | truncated
  | magicMismatch
  | sizeOverflow
  | lengthMismatch
  | checksumMismatch
  | exceedsSafetyBound
  | malformedJson
  | notInitialized
  | missingGeneration
  | markerVersion
  | markerDomain
  | markerFile
  | indexOverflow
  | logHole
  | overwritten (index : Nat)
  | truncateOverflow
  | purgeRegressed
  | generationOverflow
  | unsupportedBundle
  | snapshotApplied
  | snapshotMembership
  | alreadyExists
  | io
deriving DecidableEq

def crcBit (crc : BitVec 32) : BitVec 32 :=
  (crc >>> 1) ^^^ (0xedb88320#32 &&& (0#32 - (crc &&& 1#32)))

def crcByte (crc : BitVec 32) (byte : UInt8) : BitVec 32 :=
  (range 8).foldl (fun reached _ => crcBit reached) (crc ^^^ BitVec.ofNat 32 byte.toNat)

def crc32 (bytes : Bytes) : Nat := (~~~ bytes.foldl crcByte 0xffffffff#32).toNat

theorem crc32_bounded (bytes : Bytes) : crc32 bytes < 256 ^ 4 := (~~~ bytes.foldl crcByte 0xffffffff#32).isLt

-- Eight bytes of magic.
structure Magic where
  bytes : Bytes
  size : bytes.length = 8

def encodeEnvelope (magic : Magic) (payload : Bytes) : Bytes :=
  magic.bytes ++ (little 8 payload.length ++ (payload ++ little 4 (crc32 payload)))

def decodeEnvelope (magic : Magic) (bytes : Bytes) : Except StoreError Bytes :=
  if bytes.length < 20 then .error .truncated
  else if bytes.take 8 ≠ magic.bytes then .error .magicMismatch
  else
    let length := fromLittle ((bytes.drop 8).take 8)
    if 2 ^ 64 ≤ 8 + 8 + length + 4 then .error .sizeOverflow
    else if bytes.length ≠ 8 + 8 + length + 4 then .error .lengthMismatch
    else
      let payload := (bytes.drop 16).take length
      if fromLittle (bytes.drop (16 + length)) ≠ crc32 payload then .error .checksumMismatch else .ok payload

def safetyBound : Nat := 128 * 1024 * 1024

-- A replacement is one rename here, so there is no previous generation to recover.
def readPayload (magic : Magic) (file : Bytes) : Except StoreError Bytes :=
  if safetyBound < file.length then .error .exceedsSafetyBound else decodeEnvelope magic file

def readJson {α : Type} (serde : Serde α) (magic : Magic) (file : Bytes) : Except StoreError α := do
  let payload ← readPayload magic file
  match serde.fromSlice payload with
  | some value => .ok value
  | none => .error .malformedJson

def jsonFile {α : Type} (serde : Serde α) (magic : Magic) (value : α) : Bytes := encodeEnvelope magic (serde.toVec value)

@[simp] theorem encode_envelope_length (magic : Magic) (payload : Bytes) : (encodeEnvelope magic payload).length =
    payload.length + 20 := by
  simp only [encodeEnvelope, length_append, magic.size, little_length]
  omega

theorem decode_encode_envelope (magic : Magic) (payload : Bytes) (short : payload.length + 20 < 2 ^ 64) :
    decodeEnvelope magic (encodeEnvelope magic payload) = .ok payload := by
  have start : (encodeEnvelope magic payload).take 8 = magic.bytes := by
    rw [encodeEnvelope, ← magic.size, take_left]
  have afterMagic : (encodeEnvelope magic payload).drop 8 = little 8 payload.length ++ (payload ++ little 4 (crc32 payload)) := by
    rw [encodeEnvelope, ← magic.size, drop_left]
  have counted : ((encodeEnvelope magic payload).drop 8).take 8 = little 8 payload.length := by
    rw [afterMagic, take_left' (little_length 8 _)]
  have afterCount : (encodeEnvelope magic payload).drop 16 = payload ++ little 4 (crc32 payload) := by
    rw [show (16 : Nat) = 8 + 8 from rfl, ← drop_drop, afterMagic, drop_left' (little_length 8 _)]
  have length : fromLittle (little 8 payload.length) = payload.length := from_little 8 _ (by omega)
  have checksum : (encodeEnvelope magic payload).drop (16 + payload.length) = little 4 (crc32 payload) := by
    rw [← drop_drop, afterCount, drop_left]
  have crc : fromLittle (little 4 (crc32 payload)) = crc32 payload := from_little 4 _ (crc32_bounded payload)
  have whole := encode_envelope_length magic payload
  unfold decodeEnvelope
  rw [if_neg (by omega), if_neg (by simp [start])]
  simp only [counted, length, afterCount, take_left, checksum, crc]
  rw [if_neg (by omega), if_neg (by omega), if_neg (by simp)]

theorem read_written_iff {α : Type} {serde : Serde α} (roundTrips : serde.RoundTrips) (magic : Magic) (value : α) :
    readJson serde magic (jsonFile serde magic value) = .ok value ↔ (serde.toVec value).length + 20 ≤ safetyBound := by
  unfold readJson readPayload jsonFile
  rw [encode_envelope_length]
  constructor
  · intro read
    by_contra beyond
    rw [if_pos (by omega)] at read
    cases read
  · intro within
    have short : (serde.toVec value).length + 20 < 2 ^ 64 := by
      unfold safetyBound at within
      omega
    rw [if_neg (by omega), decode_encode_envelope magic _ short]
    simp only [bind, Except.bind, roundTrips value]

end HeptaBao.Raft
