import HeptaBao.Durable.Types

namespace HeptaBao.Contracts

open Wire Durable

-- The value types that the storage, journal and barrier contracts share, built valid.
def identityByte (byte : UInt8) : Bool :=
  (97 ≤ byte && byte ≤ 122) || (65 ≤ byte && byte ≤ 90) || (48 ≤ byte && byte ≤ 57) || [45, 95, 46, 58, 47].contains byte

def validIdentity (text : Str) : Bool := !text.isEmpty && decide (text.length ≤ 128) && text.all identityByte

structure Identity where
  text : Str
  valid : validIdentity text = true
deriving DecidableEq

structure Counter where
  value : Nat
  positive : 0 < value
  bounded : value < 2 ^ 64
deriving DecidableEq

def Counter.initial : Counter := ⟨1, by decide, by decide⟩

def Counter.ofNat (value : Nat) : Option Counter :=
  if valid : 0 < value ∧ value < 2 ^ 64 then some ⟨value, valid.1, valid.2⟩ else none

def Counter.checkedNext (counter : Counter) : Option Counter := Counter.ofNat (counter.value + 1)

theorem of_nat_value (value : Nat) (counter : Counter) (made : Counter.ofNat value = some counter) :
    counter.value = value := by
  rw [Counter.ofNat] at made
  by_cases valid : 0 < value ∧ value < 2 ^ 64
  · rw [dif_pos valid] at made
    cases made
    rfl
  · rw [dif_neg valid] at made
    cases made

theorem counter_ext (left right : Counter) (same : left.value = right.value) : left = right := by
  cases left
  cases right
  cases same
  rfl

structure Mark where
  digest : Digest
  nonzero : digest ≠ zeroDigest

instance : DecidableEq Mark := fun a b => decidable_of_iff (a.digest = b.digest) (by cases a; cases b; simp)

def Mark.ofBytes (bytes : Bytes) : Option Mark :=
  if valid : bytes.length = 32 ∧ bytes ≠ zeroDigest.bytes then
    some ⟨⟨bytes, valid.1⟩, fun zero => valid.2 (congrArg Digest.bytes zero)⟩
  else none

def Mark.bytes (mark : Mark) : Bytes := mark.digest.bytes

structure JournalTail where
  sequence : Counter
  tag : Mark
deriving DecidableEq

end HeptaBao.Contracts
