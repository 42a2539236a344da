import HeptaBao.Wire.Bytes

namespace Wire.Base64

-- The standard alphabet; decoding takes canonical texts with padding only.
def symbol (value : Nat) : UInt8 :=
  if value < 26 then UInt8.ofNat (65 + value)
  else if value < 52 then UInt8.ofNat (71 + value)
  else if value < 62 then UInt8.ofNat (value - 4)
  else if value = 62 then 43
  else 47

def symbolValue (byte : UInt8) : Option Nat :=
  if 65 ≤ byte ∧ byte ≤ 90 then some (byte.toNat - 65)
  else if 97 ≤ byte ∧ byte ≤ 122 then some (byte.toNat - 71)
  else if 48 ≤ byte ∧ byte ≤ 57 then some (byte.toNat + 4)
  else if byte = 43 then some 62
  else if byte = 47 then some 63
  else none

def encode : Bytes → Bytes
  | [] => []
  | [a] => [symbol (a.toNat / 4), symbol (a.toNat % 4 * 16), 61, 61]
  | [a, b] => [symbol (a.toNat / 4), symbol (a.toNat % 4 * 16 + b.toNat / 16), symbol (b.toNat % 16 * 4), 61]
  | a :: b :: c :: rest =>
    symbol (a.toNat / 4) :: symbol (a.toNat % 4 * 16 + b.toNat / 16) :: symbol (b.toNat % 16 * 4 + c.toNat / 64) ::
      symbol (c.toNat % 64) :: encode rest

def lastGroup (first second third : UInt8) : Option Bytes := do
  let high ← symbolValue first
  let middle ← symbolValue second
  if third = 61 then
    if middle % 16 = 0 then some [UInt8.ofNat (high * 4 + middle / 16)] else none
  else do
    let low ← symbolValue third
    if low % 4 = 0 then some [UInt8.ofNat (high * 4 + middle / 16), UInt8.ofNat (middle % 16 * 16 + low / 4)] else none

def fullGroup (first second third fourth : UInt8) : Option Bytes := do
  let a ← symbolValue first
  let b ← symbolValue second
  let c ← symbolValue third
  let d ← symbolValue fourth
  some [UInt8.ofNat (a * 4 + b / 16), UInt8.ofNat (b % 16 * 16 + c / 4), UInt8.ofNat (c % 4 * 64 + d)]

def decode : Bytes → Option Bytes
  | [] => some []
  | first :: second :: third :: fourth :: rest =>
    if rest = [] ∧ fourth = 61 then lastGroup first second third
    else do
      let front ← fullGroup first second third fourth
      let back ← decode rest
      some (front ++ back)
  | _ => none

theorem symbol_value (value : Nat) (bounded : value < 64) : symbolValue (symbol value) = some value := by
  have all : ∀ index : Fin 64, symbolValue (symbol index.val) = some index.val := by decide
  exact all ⟨value, bounded⟩

theorem symbol_not_padding (value : Nat) (bounded : value < 64) : symbol value ≠ 61 := by
  have all : ∀ index : Fin 64, symbol index.val ≠ 61 := by decide
  exact all ⟨value, bounded⟩

theorem byte_split (byte : UInt8) (value : Nat) (same : value = byte.toNat) : UInt8.ofNat value = byte := by
  rw [same, UInt8.ofNat_toNat]

theorem full_group_encoded (a b c : UInt8) :
    fullGroup (symbol (a.toNat / 4)) (symbol (a.toNat % 4 * 16 + b.toNat / 16))
    (symbol (b.toNat % 16 * 4 + c.toNat / 64)) (symbol (c.toNat % 64)) =
      some [a, b, c] := by
  have boundA := a.toNat_lt
  have boundB := b.toNat_lt
  have boundC := c.toNat_lt
  rw [fullGroup, symbol_value _ (by omega), symbol_value _ (by omega), symbol_value _ (by omega), symbol_value _ (by omega)]
  simp only [Option.bind_eq_bind, Option.bind_some, Option.some.injEq, List.cons.injEq, and_true]
  exact ⟨byte_split a _ (by omega), byte_split b _ (by omega), byte_split c _ (by omega)⟩

theorem decode_encode (bytes : Bytes) : decode (encode bytes) = some bytes := by
  induction bytes using encode.induct with
  | case1 => rfl
  | case2 a =>
    have bound := a.toNat_lt
    rw [encode, decode, if_pos ⟨rfl, rfl⟩, lastGroup, symbol_value _ (by omega), symbol_value _ (by omega)]
    simp only [Option.bind_eq_bind, Option.bind_some, if_true]
    rw [if_pos (by omega), byte_split a _ (by omega)]
  | case3 a b =>
    have boundA := a.toNat_lt
    have boundB := b.toNat_lt
    rw [encode, decode, if_pos ⟨rfl, rfl⟩, lastGroup, symbol_value _ (by omega), symbol_value _ (by omega), symbol_value _ (by omega)]
    simp only [Option.bind_eq_bind, Option.bind_some]
    rw [if_neg (symbol_not_padding _ (by omega)), if_pos (by omega), byte_split a _ (by omega), byte_split b _ (by omega)]
  | case4 _ _ c _ ih =>
    have bound := c.toNat_lt
    rw [encode, decode, if_neg fun last => symbol_not_padding _ (by omega) last.2, full_group_encoded, ih]
    rfl

theorem encode_injective (left right : Bytes) (same : encode left = encode right) : left = right := by
  have both := congrArg decode same
  rw [decode_encode, decode_encode] at both
  exact Option.some.inj both

def symbolByte (byte : UInt8) : Bool := (symbolValue byte).isSome || byte == 61

theorem encode_symbols (bytes : Bytes) : ∀ byte ∈ encode bytes, symbolByte byte = true := by
  have plain : ∀ value, value < 64 → symbolByte (symbol value) = true := by
    intro value bounded
    rw [symbolByte, symbol_value value bounded]
    rfl
  induction bytes using encode.induct with
  | case1 => simp [encode]
  | case2 a =>
    have bound := a.toNat_lt
    simp only [encode, List.forall_mem_cons]
    exact ⟨plain _ (by omega), plain _ (by omega), rfl, rfl, by simp⟩
  | case3 a b =>
    have boundA := a.toNat_lt
    have boundB := b.toNat_lt
    simp only [encode, List.forall_mem_cons]
    exact ⟨plain _ (by omega), plain _ (by omega), plain _ (by omega), rfl, by simp⟩
  | case4 a b c _ ih =>
    have boundA := a.toNat_lt
    have boundB := b.toNat_lt
    have boundC := c.toNat_lt
    simp only [encode, List.forall_mem_cons]
    exact ⟨plain _ (by omega), plain _ (by omega), plain _ (by omega), plain _ (by omega), ih⟩

end Wire.Base64
