import Mathlib

namespace Wire

abbrev Bytes := List UInt8

instance bytes_lawful : LawfulBEq Bytes := inferInstance

-- Values beyond the width wrap, as in a truncating cast.
def little : Nat → Nat → Bytes
  | 0, _ => []
  | width + 1, value => UInt8.ofNat value :: little width (value / 256)

def fromLittle : Bytes → Nat
  | [] => 0
  | byte :: rest => byte.toNat + 256 * fromLittle rest

@[simp] theorem little_length (width value : Nat) : (little width value).length = width := by
  induction width generalizing value with
  | zero => rfl
  | succ _ ih => simp [little, ih]

theorem from_little (width value : Nat) (bounded : value < 256 ^ width) : fromLittle (little width value) = value := by
  induction width generalizing value with
  | zero =>
    have zero : value = 0 := by simpa using bounded
    simp [little, fromLittle, zero]
  | succ width ih =>
    have tail : value / 256 < 256 ^ width := by
      rw [Nat.pow_succ] at bounded
      exact Nat.div_lt_of_lt_mul (by omega)
    have low : (UInt8.ofNat value).toNat = value % 256 := by simp
    rw [little, fromLittle, ih _ tail, low]
    omega

theorem little_injective {width a b : Nat} (boundedA : a < 256 ^ width) (boundedB : b < 256 ^ width)
    (same : little width a = little width b) : a = b := by
  rw [← from_little width a boundedA, ← from_little width b boundedB, same]

-- The same integers in network order.
def big (width value : Nat) : Bytes := (little width value).reverse

def fromBig (bytes : Bytes) : Nat := fromLittle bytes.reverse

@[simp] theorem big_length (width value : Nat) : (big width value).length = width := by simp [big]

theorem from_big {width value : Nat} (bounded : value < 256 ^ width) : fromBig (big width value) = value := by
  rw [fromBig, big, List.reverse_reverse, from_little width value bounded]

theorem append_split {a b x y : Bytes} (lengths : a.length = b.length) (same : a ++ x = b ++ y) : a = b ∧ x = y :=
  List.append_inj same lengths

end Wire
