import HeptaBao.Durable.Types

namespace HeptaBao.Durable

open Wire Std List

variable (byte : UInt8)

def asciiAlphanumeric : Bool :=
  (48 ≤ byte && byte ≤ 57) || (65 ≤ byte && byte ≤ 90) || (97 ≤ byte && byte ≤ 122)

def asciiHexdigit : Bool :=
  (48 ≤ byte && byte ≤ 57) || (65 ≤ byte && byte ≤ 70) || (97 ≤ byte && byte ≤ 102)

-- The bytes '-', '_', '.' and, for identifiers only, ':'.
def segmentByte : Bool :=
  asciiAlphanumeric byte || byte == 45 || byte == 95 || byte == 46

def identifierByte : Bool := segmentByte byte || byte == 58

def validateCapacity (cap : Nat) : Except ServiceError Unit :=
  if cap = 0 ∨ maxRecords < cap then .error .requestCapacityExhausted else .ok ()

def validateIdentifier (value : Str) : Except ServiceError Unit :=
  if value = [] ∨ 256 < value.length ∨ value.all identifierByte = false then .error .invalidIdentifier
  else .ok ()

def validSegment (segment : Str) : Bool :=
  segment ≠ [] && segment ≠ [46] && segment ≠ [46, 46] && segment.all segmentByte

def validateSegmentedPath (value : Str) (maximum : Nat) : Except Unit Unit :=
  if value = [] ∨ maximum < value.length ∨ value.head? = some 47 ∨ value.getLast? = some 47 ∨ value.all (· < 128) = false then .error ()
  else if (value.splitOn 47).all validSegment then .ok () else .error ()

def validateNamespace (value : Str) : Except ServiceError Unit :=
  (validateSegmentedPath value 1024).mapError fun _ => .invalidNamespace

def validateResource (value : Str) : Except ServiceError Unit :=
  (validateSegmentedPath value maxStringBytes).mapError fun _ => .invalidResource

def PutRequest.validate (req : PutRequest) : Except ServiceError Unit := do
  validateIdentifier req.principal
  validateNamespace req.nspace
  validateIdentifier req.requestId
  validateResource req.resource
  if req.authorizationDigest = zeroDigest then .error .invalidAuthorizationDigest else .ok ()

def DeleteRequest.validate (req : DeleteRequest) : Except ServiceError Unit := do
  validateIdentifier req.principal
  validateNamespace req.nspace
  validateIdentifier req.requestId
  validateResource req.resource
  if req.authorizationDigest = zeroDigest then .error .invalidAuthorizationDigest else .ok ()

def validateKey (key : RequestKey) : Except ServiceError Unit := do
  validateIdentifier key.principal
  validateNamespace key.nspace
  validateIdentifier key.requestId

variable (mark : CommitMarker)

def validateMarker : Except ServiceError Unit := do
  validateKey mark.key
  if mark.bindingDigest = zeroDigest ∨ mark.recoveryReference.length ≠ 32 ∨
      mark.recoveryReference.all asciiHexdigit = false ∨ mark.generation = 0 then .error .corruptState
  else .ok ()

def validateLedgerRecord (record : LedgerRecord) : Except ServiceError Unit :=
  if record.bindingDigest = zeroDigest ∨ record.generation = 0 ∨ record.recoveryReference.length ≠ 32 ∨
      record.recoveryReference.all asciiHexdigit = false then .error .corruptState
  else .ok ()

-- std::str::from_utf8: how many continuation bytes are due and the range of the next.
def utf8Step (due : Nat) (low high byte : UInt8) : Option (Nat × UInt8 × UInt8) :=
  if due = 0 then
    if byte < 0x80 then some (0, 0x80, 0xbf)
    else if 0xc2 ≤ byte ∧ byte ≤ 0xdf then some (1, 0x80, 0xbf)
    else if byte = 0xe0 then some (2, 0xa0, 0xbf)
    else if byte = 0xed then some (2, 0x80, 0x9f)
    else if 0xe1 ≤ byte ∧ byte ≤ 0xef then some (2, 0x80, 0xbf)
    else if byte = 0xf0 then some (3, 0x90, 0xbf)
    else if 0xf1 ≤ byte ∧ byte ≤ 0xf3 then some (3, 0x80, 0xbf)
    else if byte = 0xf4 then some (3, 0x80, 0x8f)
    else none
  else if low ≤ byte ∧ byte ≤ high then some (due - 1, 0x80, 0xbf)
  else none

def utf8From (due : Nat) (low high : UInt8) : Bytes → Bool
  | [] => due == 0
  | byte :: rest => match utf8Step due low high byte with
      | none => false
      | some (next, lower, upper) => utf8From next lower upper rest

def utf8Valid (bytes : Bytes) : Bool := utf8From 0 0x80 0xbf bytes

theorem ascii_utf8 (bytes : Bytes) (ascii : bytes.all (· < 128) = true) : utf8Valid bytes = true := by
  unfold utf8Valid
  induction bytes with
  | nil => rfl
  | cons _ _ ih =>
    simp only [all_cons, Bool.and_eq_true, decide_eq_true_eq] at ascii
    simp only [utf8From, utf8Step, if_pos ascii.1, if_true]
    exact ih ascii.2

theorem segment_byte_ascii {byte : UInt8} (valid : segmentByte byte = true) : byte < 128 := by
  simp only [segmentByte, asciiAlphanumeric, Bool.or_eq_true, Bool.and_eq_true, decide_eq_true_eq,
    beq_iff_eq, UInt8.le_iff_toNat_le, UInt8.lt_iff_toNat_lt, ← UInt8.toNat_inj] at valid ⊢
  simp only [UInt8.reduceToNat] at valid ⊢
  omega

theorem hexdigit_ascii (valid : asciiHexdigit byte = true) : byte < 128 := by
  simp only [asciiHexdigit, Bool.or_eq_true, Bool.and_eq_true, decide_eq_true_eq, UInt8.le_iff_toNat_le, UInt8.lt_iff_toNat_lt] at valid ⊢
  simp only [UInt8.reduceToNat] at valid ⊢
  omega

theorem all_ascii {p : UInt8 → Bool} {bytes : Bytes} (each : ∀ byte, p byte = true → byte < 128)
    (valid : bytes.all p = true) : bytes.all (· < 128) = true := by
  rw [all_eq_true] at valid ⊢
  exact fun byte member => decide_eq_true (each byte (valid byte member))

theorem identifier_bounds {value : Str} (valid : validateIdentifier value = .ok ()) : value.length ≤ 256 ∧
    utf8Valid value = true := by
  unfold validateIdentifier at valid
  split at valid
  · cases valid
  · rename_i good
    simp only [not_or, Bool.not_eq_false, Nat.not_lt] at good
    refine ⟨good.2.1, ascii_utf8 value (all_ascii ?_ good.2.2)⟩
    intro byte accepted
    simp only [identifierByte, Bool.or_eq_true, beq_iff_eq] at accepted
    rcases accepted with segment | colon
    · exact segment_byte_ascii segment
    · subst colon
      decide

theorem segmented_path_bounds {value : Str} {maximum : Nat} (valid : validateSegmentedPath value maximum = .ok ()) :
    value.length ≤ maximum ∧ utf8Valid value = true := by
  unfold validateSegmentedPath at valid
  split at valid
  · cases valid
  · rename_i good
    simp only [not_or, Bool.not_eq_false, Nat.not_lt] at good
    exact ⟨good.2.1, ascii_utf8 value good.2.2.2.2⟩

theorem map_error_ok {ε δ : Type} (res : Except ε Unit) (f : ε → δ) (valid : res.mapError f = .ok ()) :
    res = .ok () := by
  cases res with
  | error => cases valid
  | ok => rfl

theorem namespace_bounds {value : Str} (valid : validateNamespace value = .ok ()) : value.length ≤ 1024 ∧
    utf8Valid value = true :=
  segmented_path_bounds (map_error_ok _ _ valid)

theorem resource_bounds (value : Str) (valid : validateResource value = .ok ()) : value.length ≤ maxStringBytes ∧
    utf8Valid value = true :=
  segmented_path_bounds (map_error_ok _ _ valid)

theorem unit_bind_ok {ε α : Type} {first : Except ε Unit} {next : Unit → Except ε α} {res : α}
    (succeeds : (first >>= next) = .ok res) : first = .ok () ∧ next () = .ok res := by
  obtain ⟨_, done, later⟩ := bind_ok succeeds
  exact ⟨done, later⟩

theorem validate_key_parts {key : RequestKey} (valid : validateKey key = .ok ()) :
    validateIdentifier key.principal = .ok () ∧ validateNamespace key.nspace = .ok () ∧
      validateIdentifier key.requestId = .ok () := by
  obtain ⟨who, later⟩ := unit_bind_ok valid
  obtain ⟨nspace, requestId⟩ := unit_bind_ok later
  exact ⟨who, nspace, requestId⟩

theorem put_validate_parts {req : PutRequest} (valid : req.validate = .ok ()) :
    validateKey ⟨req.principal, req.nspace, req.requestId⟩ = .ok () ∧ validateResource req.resource = .ok () := by
  obtain ⟨who, later⟩ := unit_bind_ok valid
  obtain ⟨nspace, later⟩ := unit_bind_ok later
  obtain ⟨requestId, later⟩ := unit_bind_ok later
  obtain ⟨resource, _⟩ := unit_bind_ok later
  refine ⟨?_, resource⟩
  simp only [validateKey, who, nspace, requestId]
  rfl

theorem delete_validate_parts {req : DeleteRequest} (valid : req.validate = .ok ()) :
    validateKey ⟨req.principal, req.nspace, req.requestId⟩ = .ok () ∧ validateResource req.resource = .ok () := by
  obtain ⟨who, later⟩ := unit_bind_ok valid
  obtain ⟨nspace, later⟩ := unit_bind_ok later
  obtain ⟨requestId, later⟩ := unit_bind_ok later
  obtain ⟨resource, _⟩ := unit_bind_ok later
  refine ⟨?_, resource⟩
  simp only [validateKey, who, nspace, requestId]
  rfl

theorem validate_record_iff (record : LedgerRecord) : validateLedgerRecord record = .ok () ↔
    record.bindingDigest ≠ zeroDigest ∧ record.generation ≠ 0 ∧ record.recoveryReference.length = 32 ∧
      record.recoveryReference.all asciiHexdigit = true := by
  unfold validateLedgerRecord
  split
  · rename_i bad
    simp only [reduceCtorEq, false_iff]
    rintro ⟨digest, gen, length, hex⟩
    simp [digest, gen, length, hex] at bad
  · rename_i good
    simp only [not_or, Bool.not_eq_false, not_not] at good
    simpa using good

theorem validate_marker_iff : validateMarker mark = .ok () ↔ validateKey mark.key = .ok () ∧
      validateLedgerRecord ⟨mark.bindingDigest, mark.recoveryReference, mark.generation⟩ = .ok () := by
  rw [validate_record_iff]
  unfold validateMarker
  cases keyEq : validateKey mark.key with
  | error => simp [bind, Except.bind]
  | ok value =>
    simp only [bind, Except.bind, true_and]
    split
    · rename_i bad
      simp only [reduceCtorEq, false_iff]
      rintro ⟨digest, gen, length, hex⟩
      simp [digest, gen, length, hex] at bad
    · rename_i good
      simp only [not_or, Bool.not_eq_false, not_not] at good
      simp [good]

theorem reference_bounds (ref : Str) (length : ref.length = 32)
    (hex : ref.all asciiHexdigit = true) : ref.length ≤ 128 ∧ utf8Valid ref = true :=
  ⟨by omega, ascii_utf8 ref (@all_ascii asciiHexdigit ref hexdigit_ascii hex)⟩

end HeptaBao.Durable
