import HeptaBao.Durable.Types
import Mathlib.Algebra.Field.Basic
import Mathlib.Data.Fintype.Basic

namespace HeptaBao.Server

open Wire Durable

-- left <<= 1, reduced where a bit falls out.
def gfDouble (left : UInt8) : UInt8 := if left &&& 0x80 ≠ 0 then (left <<< 1) ^^^ 0x1b else left <<< 1

def gfMulLoop : Nat → UInt8 → UInt8 → UInt8 → UInt8
  | 0, product, _, _ => product
  | rounds + 1, product, left, right =>
    gfMulLoop rounds (if right &&& 1 ≠ 0 then product ^^^ left else product) (gfDouble left) (right >>> 1)

def gfMul (left right : UInt8) : UInt8 := gfMulLoop 8 0 left right

-- The loop halves a sixteen-bit exponent until it is zero.
def gfPowerLoop : Nat → UInt8 → UInt8 → UInt16 → UInt8
  | 0, res, _, _ => res
  | rounds + 1, res, base, exponent =>
    if exponent = 0 then res
    else gfPowerLoop rounds (if exponent &&& 1 ≠ 0 then gfMul res base else res) (gfMul base base) (exponent >>> 1)

def gfInverse (value : UInt8) : Except Str UInt8 :=
  if value = 0 then .error (str "zero has no inverse in GF(256)") else .ok (gfPowerLoop 16 1 value 254)

theorem and_xor (left right mask : UInt8) : (left ^^^ right) &&& mask = (left &&& mask) ^^^ (right &&& mask) := by
  apply UInt8.eq_of_toBitVec_eq
  apply BitVec.eq_of_getLsbD_eq
  intro i _
  simp only [UInt8.toBitVec_and, UInt8.toBitVec_xor, BitVec.getLsbD_and, BitVec.getLsbD_xor, Bool.and_xor_distrib_right]

theorem high_bit : ∀ value : UInt8, value &&& 0x80 = 0 ∨ value &&& 0x80 = 0x80 := by decide +kernel

theorem low_bit : ∀ value : UInt8, value &&& 1 = 0 ∨ value &&& 1 = 1 := by decide +kernel

theorem xor_swap (a b c d : UInt8) : (a ^^^ b) ^^^ (c ^^^ d) = (a ^^^ c) ^^^ (b ^^^ d) := by
  rw [UInt8.xor_assoc, UInt8.xor_assoc, ← UInt8.xor_assoc b, UInt8.xor_comm b c, UInt8.xor_assoc c]

theorem select_xor (left right mask value : UInt8) (leftBit : left &&& mask = 0 ∨ left &&& mask = mask)
    (rightBit : right &&& mask = 0 ∨ right &&& mask = mask) (proper : mask ≠ 0) :
      (if (left ^^^ right) &&& mask ≠ 0 then value else 0) =
      (if left &&& mask ≠ 0 then value else 0) ^^^ (if right &&& mask ≠ 0 then value else 0) := by
  rw [and_xor]
  rcases leftBit with isLeft | isLeft <;> rcases rightBit with isRight | isRight
  · simp [isLeft, isRight]
  · simp [isLeft, isRight]
  · simp [isLeft, isRight]
  · simp [isLeft, isRight, proper]

theorem double_eq (value : UInt8) : gfDouble value = (value <<< 1) ^^^ (if value &&& 0x80 ≠ 0 then 0x1b else 0) := by
  unfold gfDouble
  by_cases high : value &&& 0x80 ≠ 0
  · rw [if_pos high, if_pos high]
  · rw [if_neg high, if_neg high, UInt8.xor_zero]

theorem double_xor (left right : UInt8) : gfDouble (left ^^^ right) = gfDouble left ^^^ gfDouble right := by
  rw [double_eq, double_eq, double_eq, UInt8.shiftLeft_xor, select_xor left right 0x80 0x1b (high_bit left) (high_bit right) (by decide)]
  exact xor_swap _ _ _ _

theorem loop_eq (rounds : Nat) (product left right : UInt8) : gfMulLoop (rounds + 1) product left right =
      gfMulLoop rounds (product ^^^ (if right &&& 1 ≠ 0 then left else 0)) (gfDouble left) (right >>> 1) := by
  rw [gfMulLoop]
  by_cases low : right &&& 1 ≠ 0
  · rw [if_pos low, if_pos low]
  · rw [if_neg low, if_neg low, UInt8.xor_zero]

theorem loop_product (rounds : Nat) (product left right : UInt8) :
    gfMulLoop rounds product left right = product ^^^ gfMulLoop rounds 0 left right := by
  induction rounds generalizing product left right with
  | zero => exact (UInt8.xor_zero).symm
  | succ _ ih => rw [loop_eq, loop_eq, ih, ih (0 ^^^ _), UInt8.zero_xor, UInt8.xor_assoc]

theorem loop_succ (rounds : Nat) (left right : UInt8) :
    gfMulLoop (rounds + 1) 0 left right = (if right &&& 1 ≠ 0 then left else 0) ^^^ gfMulLoop rounds 0 (gfDouble left)
    (right >>> 1) := by
  rw [loop_eq, loop_product, UInt8.zero_xor]

theorem loop_xor_left (rounds : Nat) (first second right : UInt8) :
    gfMulLoop rounds 0 (first ^^^ second) right = gfMulLoop rounds 0 first right ^^^ gfMulLoop rounds 0 second
      right := by
  induction rounds generalizing first second right with
  | zero => exact UInt8.xor_self.symm
  | succ _ ih =>
    have picked : (if right &&& 1 ≠ 0 then first ^^^ second else 0) =
        (if right &&& 1 ≠ 0 then first else 0) ^^^ (if right &&& 1 ≠ 0 then second else 0) := by
      by_cases low : right &&& 1 ≠ 0
      · rw [if_pos low, if_pos low, if_pos low]
      · rw [if_neg low, if_neg low, if_neg low, UInt8.xor_zero]
    rw [loop_succ, loop_succ, loop_succ, double_xor, ih, picked]
    exact xor_swap _ _ _ _

theorem loop_xor_right (rounds : Nat) (left first second : UInt8) :
    gfMulLoop rounds 0 left (first ^^^ second) = gfMulLoop rounds 0 left first ^^^ gfMulLoop rounds 0 left second := by
  induction rounds generalizing left first second with
  | zero => exact UInt8.xor_self.symm
  | succ _ ih =>
    rw [loop_succ, loop_succ, loop_succ, UInt8.shiftRight_xor, ih, select_xor first second 1 left (low_bit first) (low_bit second) (by decide)]
    exact xor_swap _ _ _ _

theorem loop_double (rounds : Nat) (left right : UInt8) : gfMulLoop rounds 0 (gfDouble left) right =
    gfDouble (gfMulLoop rounds 0 left right) := by
  induction rounds generalizing left right with
  | zero => exact (by decide : (0 : UInt8) = gfDouble 0)
  | succ _ ih =>
    have picked : (if right &&& 1 ≠ 0 then gfDouble left else 0) = gfDouble (if right &&& 1 ≠ 0 then left else 0) := by
      by_cases low : right &&& 1 ≠ 0
      · rw [if_pos low, if_pos low]
      · rw [if_neg low, if_neg low]
        rfl
    rw [loop_succ, loop_succ, ih, picked, double_xor]

theorem mul_xor_left (first second right : UInt8) : gfMul (first ^^^ second) right =
    gfMul first right ^^^ gfMul second right :=
  loop_xor_left 8 first second right

theorem mul_xor_right (left first second : UInt8) : gfMul left (first ^^^ second) =
    gfMul left first ^^^ gfMul left second :=
  loop_xor_right 8 left first second

theorem double_mul (left right : UInt8) : gfMul (gfDouble left) right = gfDouble (gfMul left right) :=
  loop_double 8 left right

theorem byte_bits : ∀ value : UInt8, value = (value &&& 1) ^^^ (value &&& 2) ^^^ (value &&& 4) ^^^ (value &&& 8) ^^^
    (value &&& 16) ^^^
    (value &&& 32) ^^^ (value &&& 64) ^^^ (value &&& 128) := by decide +kernel

theorem masked_bit : ∀ value : UInt8, (value &&& 2 = 0 ∨ value &&& 2 = 2) ∧ (value &&& 4 = 0 ∨ value &&& 4 = 4) ∧
    (value &&& 8 = 0 ∨ value &&& 8 = 8) ∧ (value &&& 16 = 0 ∨ value &&& 16 = 16) ∧
      (value &&& 32 = 0 ∨ value &&& 32 = 32) ∧
      (value &&& 64 = 0 ∨ value &&& 64 = 64) := by decide +kernel

-- Every byte is a sum of doublings of one.
theorem byte_induction (holds : UInt8 → Prop) (zero : holds 0) (one : holds 1)
    (double : ∀ value, holds value → holds (gfDouble value))
    (xor : ∀ left right, holds left → holds right → holds (left ^^^ right)) (value : UInt8) : holds value := by
  have powers : holds 2 ∧ holds 4 ∧ holds 8 ∧ holds 16 ∧ holds 32 ∧ holds 64 ∧ holds 128 := by
    have two : holds 2 := double 1 one
    have four : holds 4 := double 2 two
    have eight : holds 8 := double 4 four
    have sixteen : holds 16 := double 8 eight
    have next : holds 32 := double 16 sixteen
    have last : holds 64 := double 32 next
    exact ⟨two, four, eight, sixteen, next, last, double 64 last⟩
  have bit : ∀ mask : UInt8, holds mask → (value &&& mask = 0 ∨ value &&& mask = mask) → holds (value &&& mask) := by
    intro mask held either
    rcases either with none' | all
    · rw [none']
      exact zero
    · rw [all]
      exact held
  obtain ⟨two, four, eight, sixteen, next, last, top⟩ := powers
  obtain ⟨bit2, bit4, bit8, bit16, bit32, bit64⟩ := masked_bit value
  rw [byte_bits value]
  exact xor _ _ (xor _ _ (xor _ _ (xor _ _ (xor _ _ (xor _ _ (xor _ _ (bit 1 one (low_bit value)) (bit 2 two bit2)) (bit 4 four bit4))
    (bit 8 eight bit8)) (bit 16 sixteen bit16)) (bit 32 next bit32)) (bit 64 last bit64)) (bit 128 top (high_bit value))

theorem gf_one_mul : ∀ value : UInt8, gfMul 1 value = value := by decide +kernel

theorem gf_zero_mul (right : UInt8) : gfMul 0 right = 0 := by
  have same := mul_xor_left 0 0 right
  rw [UInt8.xor_self, UInt8.xor_self] at same
  exact same

theorem gf_mul_zero (left : UInt8) : gfMul left 0 = 0 := by
  have same := mul_xor_right left 0 0
  rw [UInt8.xor_self, UInt8.xor_self] at same
  exact same

theorem gf_mul_double (left right : UInt8) : gfMul left (gfDouble right) = gfDouble (gfMul left right) := by
  induction left using byte_induction with
  | zero => rw [gf_zero_mul, gf_zero_mul]; rfl
  | one => rw [gf_one_mul, gf_one_mul]
  | double _ held => rw [double_mul, double_mul, held]
  | xor _ _ heldFirst heldSecond => rw [mul_xor_left, mul_xor_left, heldFirst, heldSecond, double_xor]

theorem gf_mul_one (left : UInt8) : gfMul left 1 = left := by
  induction left using byte_induction with
  | zero => exact gf_zero_mul 1
  | one => exact gf_one_mul 1
  | double _ held => rw [double_mul, held]
  | xor _ _ heldFirst heldSecond => rw [mul_xor_left, heldFirst, heldSecond]

theorem gf_mul_comm (left right : UInt8) : gfMul left right = gfMul right left := by
  induction right using byte_induction with
  | zero => rw [gf_mul_zero, gf_zero_mul]
  | one => rw [gf_mul_one, gf_one_mul]
  | double _ held => rw [gf_mul_double, double_mul, held]
  | xor _ _ heldFirst heldSecond => rw [mul_xor_right, mul_xor_left, heldFirst, heldSecond]

theorem gf_mul_assoc (first second third : UInt8) : gfMul (gfMul first second) third =
    gfMul first (gfMul second third) := by
  induction third using byte_induction with
  | zero => rw [gf_mul_zero, gf_mul_zero, gf_mul_zero]
  | one => rw [gf_mul_one, gf_mul_one]
  | double _ held => rw [gf_mul_double, gf_mul_double, gf_mul_double, held]
  | xor _ _ heldLeft heldRight => rw [mul_xor_right, mul_xor_right, mul_xor_right, heldLeft, heldRight]

-- The bytes with these operations.
structure Gf256 where
  byte : UInt8
deriving DecidableEq

namespace Gf256

theorem ext (left right : Gf256) (same : left.byte = right.byte) : left = right := by
  cases left
  cases right
  exact congrArg mk same

instance : Zero Gf256 := ⟨⟨0⟩⟩
instance : One Gf256 := ⟨⟨1⟩⟩
instance : Add Gf256 := ⟨fun left right => ⟨left.byte ^^^ right.byte⟩⟩
instance : Mul Gf256 := ⟨fun left right => ⟨gfMul left.byte right.byte⟩⟩
instance : Neg Gf256 := ⟨fun value => value⟩

instance : CommRing Gf256 where
  add_assoc a b c := ext _ _ (UInt8.xor_assoc a.byte b.byte c.byte)
  zero_add a := ext _ _ UInt8.zero_xor
  add_zero a := ext _ _ UInt8.xor_zero
  add_comm a b := ext _ _ (UInt8.xor_comm a.byte b.byte)
  neg_add_cancel a := ext _ _ UInt8.xor_self
  nsmul := nsmulRec
  zsmul := zsmulRec
  left_distrib a b c := ext _ _ (mul_xor_right a.byte b.byte c.byte)
  right_distrib a b c := ext _ _ (mul_xor_left a.byte b.byte c.byte)
  zero_mul a := ext _ _ (gf_zero_mul a.byte)
  mul_zero a := ext _ _ (gf_mul_zero a.byte)
  mul_assoc a b c := ext _ _ (gf_mul_assoc a.byte b.byte c.byte)
  one_mul a := ext _ _ (gf_one_mul a.byte)
  mul_one a := ext _ _ (gf_mul_one a.byte)
  mul_comm a b := ext _ _ (gf_mul_comm a.byte b.byte)

@[simp] theorem byte_add (left right : Gf256) : (left + right).byte = left.byte ^^^ right.byte := rfl
@[simp] theorem byte_mul (left right : Gf256) : (left * right).byte = gfMul left.byte right.byte := rfl
@[simp] theorem byte_zero : (0 : Gf256).byte = 0 := rfl
@[simp] theorem byte_one : (1 : Gf256).byte = 1 := rfl

theorem add_self (value : Gf256) : value + value = 0 := ext _ _ UInt8.xor_self

theorem square_add (left right : Gf256) : (left + right) ^ 2 = left ^ 2 + right ^ 2 := by
  have expanded : (left + right) ^ 2 = left ^ 2 + right ^ 2 + (left * right + left * right) := by ring
  rw [expanded, add_self, add_zero]

theorem power_add (count : Nat) (left right : Gf256) : (left + right) ^ 2 ^ count =
    left ^ 2 ^ count + right ^ 2 ^ count := by
  induction count with
  | zero => rw [pow_zero, pow_one, pow_one, pow_one]
  | succ _ ih => rw [pow_succ, pow_mul, ih, square_add, ← pow_mul, ← pow_mul]

theorem power_loop (rounds : Nat) (res base : UInt8) (exponent : UInt16) (bounded : exponent.toNat < 2 ^ rounds) :
    (⟨gfPowerLoop rounds res base exponent⟩ : Gf256) = ⟨res⟩ * ⟨base⟩ ^ exponent.toNat := by
  induction rounds generalizing res base exponent with
  | zero =>
    have none' : exponent.toNat = 0 := by omega
    rw [none', pow_zero, mul_one]
    rfl
  | succ _ ih =>
    by_cases done : exponent = 0
    · rw [gfPowerLoop, if_pos done, done]
      exact (mul_one _).symm
    have half : (exponent >>> 1).toNat = exponent.toNat / 2 := by simp [UInt16.toNat_shiftRight, Nat.shiftRight_eq_div_pow]
    have low : (exponent &&& 1).toNat = exponent.toNat % 2 := by simp [UInt16.toNat_and, Nat.and_one_is_mod]
    have square : (⟨gfMul base base⟩ : Gf256) = ⟨base⟩ ^ 2 := (pow_two _).symm
    rw [gfPowerLoop, if_neg done, ih _ _ _ (by rw [half]; omega), half, square, ← pow_mul]
    by_cases odd : exponent &&& 1 ≠ 0
    · have isOdd : exponent.toNat % 2 = 1 := by
        have nonzero : (exponent &&& 1).toNat ≠ 0 := fun zero => odd (UInt16.toNat_inj.mp zero)
        omega
      have split : exponent.toNat = 1 + 2 * (exponent.toNat / 2) := by omega
      rw [if_pos odd]
      nth_rewrite 2 [split]
      rw [pow_add, pow_one, ← mul_assoc]
      rfl
    · have isEven : exponent.toNat % 2 = 0 := by
        rw [not_not] at odd
        rw [← low, odd]
        rfl
      have split : exponent.toNat = 2 * (exponent.toNat / 2) := by omega
      rw [if_neg odd, ← split]

theorem power_fold (value : Gf256) : value ^ 256 = value := by
  obtain ⟨byte⟩ := value
  induction byte using byte_induction with
  | zero => exact zero_pow (by decide)
  | one => exact one_pow 256
  | double byte held =>
    have doubled : (⟨gfDouble byte⟩ : Gf256) = ⟨byte⟩ * ⟨2⟩ := by
      refine ext _ _ ?_
      rw [byte_mul, show (2 : UInt8) = gfDouble 1 by decide, gf_mul_double, gf_mul_one]
    have two : (⟨2⟩ : Gf256) ^ 256 = ⟨2⟩ := by
      have loop := power_loop 16 1 2 256 (by decide)
      rw [show (⟨1⟩ : Gf256) = 1 from rfl, one_mul] at loop
      rw [show (256 : Nat) = (256 : UInt16).toNat from rfl, ← loop]
      exact ext _ _ (by decide +kernel)
    rw [doubled, mul_pow, held, two]
  | xor left right heldLeft heldRight =>
    have split : (⟨left ^^^ right⟩ : Gf256) = ⟨left⟩ + ⟨right⟩ := rfl
    have summed := power_add 8 ⟨left⟩ ⟨right⟩
    rw [show 2 ^ 8 = 256 by decide] at summed
    rw [split, summed, heldLeft, heldRight]

theorem idempotents : ∀ byte : UInt8, gfMul byte byte = byte → byte = 0 ∨ byte = 1 := by decide +kernel

theorem power_one (value : Gf256) (nonzero : value ≠ 0) : value ^ 255 = 1 := by
  have folded : value ^ 255 * value = value := by
    rw [← pow_succ]
    exact power_fold value
  have idempotent : value ^ 255 * value ^ 255 = value ^ 255 := by
    have split : value ^ 255 = value * value ^ 254 := by rw [← pow_succ']
    nth_rewrite 2 [split]
    rw [← mul_assoc, folded, ← split]
  rcases idempotents (value ^ 255).byte (congrArg byte idempotent) with isZero | isOne
  · rw [ext (value ^ 255) 0 isZero, zero_mul] at folded
    exact absurd folded.symm nonzero
  · exact ext _ _ isOne

instance : Inv Gf256 := ⟨fun value => ⟨gfPowerLoop 16 1 value.byte 254⟩⟩

theorem inv_power (value : Gf256) : value⁻¹ = value ^ 254 := by
  have loop := power_loop 16 1 value.byte 254 (by decide)
  rw [show (⟨1⟩ : Gf256) = 1 from rfl, one_mul] at loop
  exact loop

instance : Field Gf256 where
  exists_pair_ne := ⟨0, 1, by decide⟩
  mul_inv_cancel value nonzero := by
    rw [inv_power, ← pow_succ']
    exact power_one value nonzero
  inv_zero := by
    rw [inv_power]
    exact zero_pow (by decide)
  nnqsmul := _
  qsmul := _

end Gf256

theorem gf_inverse_eq (value : UInt8) (nonzero : value ≠ 0) : gfInverse value = .ok (⟨value⟩ : Gf256)⁻¹.byte := by
  rw [gfInverse, if_neg nonzero]
  rfl

end HeptaBao.Server
