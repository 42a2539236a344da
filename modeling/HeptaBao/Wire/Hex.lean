import HeptaBao.Wire.SortedMap

namespace Wire

open List

def hexDigit (value : Nat) : UInt8 := UInt8.ofNat (if value < 10 then 48 + value else 87 + value)

def hexBytes (bytes : Bytes) : Bytes :=
  bytes.flatMap fun byte => [hexDigit (byte.toNat / 16), hexDigit (byte.toNat % 16)]

-- u8::from_str_radix on one digit; both letter cases are accepted.
def hexValue (byte : UInt8) : Nat :=
  if byte.toNat ≤ 57 then byte.toNat - 48 else if byte.toNat ≤ 70 then byte.toNat - 55 else byte.toNat - 87

def hexPairs : Bytes → Bytes
  | high :: low :: rest => UInt8.ofNat (16 * hexValue high + hexValue low) :: hexPairs rest
  | _ => []

theorem byte_halves (byte : UInt8) : byte.toNat / 16 < 16 ∧ byte.toNat % 16 < 16 := by
  have bounded := byte.toNat_lt
  omega

theorem hex_value_digit {value : Nat} (small : value < 16) : hexValue (hexDigit value) = value := by
  revert value
  decide

theorem hex_bytes_length (bytes : Bytes) : (hexBytes bytes).length = 2 * bytes.length := by
  induction bytes with
  | nil => rfl
  | cons _ _ ih =>
    simp only [hexBytes, flatMap_cons, length_append, length_cons, length_nil] at ih ⊢
    omega

theorem hex_bytes_all (accepts : UInt8 → Prop) (digits : ∀ value, value < 16 → accepts (hexDigit value))
    (bytes : Bytes) :
    ∀ byte ∈ hexBytes bytes, accepts byte := by
  intro byte member
  simp only [hexBytes, mem_flatMap, mem_cons, not_mem_nil, or_false] at member
  obtain ⟨source, _, rfl | rfl⟩ := member
  · exact digits _ (byte_halves source).1
  · exact digits _ (byte_halves source).2

theorem hex_pairs_bytes (bytes : Bytes) : hexPairs (hexBytes bytes) = bytes := by
  induction bytes with
  | nil => rfl
  | cons byte _ ih =>
    obtain ⟨high, low⟩ := byte_halves byte
    have whole : 16 * (byte.toNat / 16) + byte.toNat % 16 = byte.toNat := by omega
    simp only [hexBytes, flatMap_cons, cons_append, nil_append, hexPairs] at ih ⊢
    rw [ih, hex_value_digit high, hex_value_digit low, whole, UInt8.ofNat_toNat]

theorem hex_bytes_injective (a b : Bytes) (same : hexBytes a = hexBytes b) : a = b := by
  rw [← hex_pairs_bytes a, same, hex_pairs_bytes]

end Wire
