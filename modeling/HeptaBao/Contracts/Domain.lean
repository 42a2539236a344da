import HeptaBao.Durable.Validate
import HeptaBao.Wire.Text

namespace HeptaBao.Domain

open Wire Std Durable

def maxIdBytes : Nat := 64
def maxPathBytes : Nat := 1024

inductive DomainError where
  | emptyIdentifier
  | identifierTooLong
  | invalidIdentifierCharacter
  | invalidIdentifierBoundary
  | emptyPath
  | pathTooLong
  | pathMustBeAbsolute
  | invalidPathSegment
  | invalidPathCharacter
  | emptySecret
  | secretTooLarge
  | tickOverflow
deriving DecidableEq

def idByte (byte : UInt8) : Bool := (97 ≤ byte && byte ≤ 122) || (48 ≤ byte && byte ≤ 57) || byte == 45 || byte == 95

-- '-' and '_' may not stand at either end.
def edgeByte (byte : Option UInt8) : Bool := byte == some 45 || byte == some 95

def checkId (value : Str) : Except DomainError Unit :=
  if value = [] then .error .emptyIdentifier
  else if maxIdBytes < value.length then .error .identifierTooLong
  else if edgeByte value.head? || edgeByte value.getLast? then .error .invalidIdentifierBoundary
  else if value.all idByte = false then .error .invalidIdentifierCharacter
  else .ok ()

@[ext]
structure Id where
  text : Str
  parsed : checkId text = .ok ()
deriving DecidableEq

def Id.parse (value : Str) : Except DomainError Id :=
  match parsed : checkId value with
  | .error flaw => .error flaw
  | .ok _ => .ok ⟨value, parsed⟩

instance : Ord Id := ⟨compareOn Id.text⟩

instance : TransOrd Id := inferInstanceAs (TransCmp (compareOn Id.text))

instance : LawfulEqOrd Id where
  eq_of_compare := by
    intro a b same
    change compareOn Id.text a b = .eq at same
    simp only [compareOn, LawfulEqOrd.compare_eq_iff_eq] at same
    exact Id.ext same

def checkSegments : List Str → Except DomainError Unit
  | [] => .ok ()
  | segment :: rest =>
    if segment = [] ∨ segment = [46] ∨ segment = [46, 46] then .error .invalidPathSegment
    else if segment.all identifierByte = false then .error .invalidPathCharacter
    else checkSegments rest

def checkPath (value : Str) : Except DomainError Unit :=
  if value = [] then .error .emptyPath
  else if maxPathBytes < value.length then .error .pathTooLong
  else if value.head? ≠ some 47 then .error .pathMustBeAbsolute
  else if value = [47] then .ok ()
  else if value.getLast? = some 47 then .error .invalidPathSegment
  else checkSegments ((value.splitOn 47).drop 1)

structure CanonicalPath where
  text : Str
  parsed : checkPath text = .ok ()
deriving DecidableEq

def CanonicalPath.parse (value : Str) : Except DomainError CanonicalPath :=
  match parsed : checkPath value with
  | .error flaw => .error flaw
  | .ok _ => .ok ⟨value, parsed⟩

abbrev Tick := UInt64

def Tick.checkedAdd (tick : Tick) (delta : UInt64) : Except DomainError Tick :=
  if tick.toNat + delta.toNat < 2 ^ 64 then .ok (UInt64.ofNat (tick.toNat + delta.toNat)) else .error .tickOverflow

-- checked_add(1) on a generation.
def nextGeneration (gen : UInt64) : Option UInt64 :=
  if gen.toNat + 1 < 2 ^ 64 then some (UInt64.ofNat (gen.toNat + 1)) else none

-- SecretValue has the bounds of a durable secret.
abbrev SecretValue := Secret

def SecretValue.new (bytes : Bytes) : Except DomainError SecretValue :=
  if nonempty : bytes = [] then .error .emptySecret
  else if bounded : bytes.length ≤ maxSecretBytes then .ok ⟨bytes, nonempty, bounded⟩
  else .error .secretTooLarge

theorem parse_id (id : Id) : Id.parse id.text = .ok id := by
  unfold Id.parse
  split
  · rename_i flaw refused
    rw [id.parsed] at refused
    cases refused
  · rfl

theorem parse_path (path : CanonicalPath) : CanonicalPath.parse path.text = .ok path := by
  unfold CanonicalPath.parse
  split
  · rename_i flaw refused
    rw [path.parsed] at refused
    cases refused
  · rfl

theorem tick_add {tick : Tick} {delta : UInt64} {sum : Tick} (added : tick.checkedAdd delta = .ok sum) :
    sum.toNat = tick.toNat + delta.toNat := by
  unfold Tick.checkedAdd at added
  split at added
  · rename_i small
    cases added
    exact UInt64.toNat_ofNat_of_lt' small
  · cases added

theorem next_generation_some (gen next : UInt64) (raised : nextGeneration gen = some next) :
    next.toNat = gen.toNat + 1 := by
  unfold nextGeneration at raised
  split at raised
  · rename_i small
    cases raised
    exact UInt64.toNat_ofNat_of_lt' small
  · cases raised

theorem id_byte_segment {byte : UInt8} (valid : idByte byte = true) : segmentByte byte = true ∧ byte ≠ 47 ∧
    byte ≠ 58 ∧ byte ≠ 46 := by
  simp only [idByte, segmentByte, asciiAlphanumeric, Bool.or_eq_true, Bool.and_eq_true, decide_eq_true_eq, beq_iff_eq,
    UInt8.le_iff_toNat_le, ← UInt8.toNat_inj, ne_eq] at valid ⊢
  simp only [UInt8.reduceToNat] at valid ⊢
  omega

theorem id_text (id : Id) : id.text ≠ [] ∧ id.text.length ≤ 64 ∧ id.text.all idByte = true := by
  have parsed := id.parsed
  unfold checkId at parsed
  split at parsed
  · cases parsed
  · rename_i filled
    split at parsed
    · cases parsed
    · rename_i short
      split at parsed
      · cases parsed
      · split at parsed
        · cases parsed
        · rename_i bytes
          exact ⟨filled, Nat.le_of_not_lt short, by simpa using bytes⟩

theorem path_text (path : CanonicalPath) : path.text ≠ [] ∧ path.text.length ≤ 1024 := by
  have parsed := path.parsed
  unfold checkPath at parsed
  split at parsed
  · cases parsed
  · rename_i filled
    split at parsed
    · cases parsed
    · rename_i short
      exact ⟨filled, Nat.le_of_not_lt short⟩

end HeptaBao.Domain
