import HeptaBao.Engines.Types

namespace Wire

open List

-- The number that digits spell, the most significant one first.
def numeral (base : Nat) (digits : List Nat) : Nat := Nat.ofDigits base digits.reverse

theorem numeral_concat (base : Nat) (digits : List Nat) (digit : Nat) : numeral base (digits ++ [digit]) =
    numeral base digits * base + digit := by
  rw [numeral, reverse_append, reverse_singleton, singleton_append, Nat.ofDigits_cons, numeral]
  simp [Nat.add_comm, Nat.mul_comm]

theorem numeral_injective {base : Nat} {a b : List Nat} (large : 1 < base) (size : a.length = b.length)
    (smallA : ∀ digit ∈ a, digit < base)
    (smallB : ∀ digit ∈ b, digit < base) (same : numeral base a = numeral base b) : a = b :=
  reverse_injective (Nat.ofDigits_inj_of_len_eq large (by simpa using size) (by simpa using smallA) (by simpa using smallB) same)

theorem append_digit_mod {value base digit : Nat} (small : digit < base) (size : Nat) :
    (value * base + digit) % (size * base) = value % size * base + digit := by
  have low : (value * base + digit) % base = digit := by rw [Nat.mul_add_mod', Nat.mod_eq_of_lt small]
  have high : (value * base + digit) / base = value := Nat.div_eq_of_lt_le (by omega) (by rw [add_mul]; omega)
  rw [Nat.mul_comm size, Nat.mod_mul, low, high, Nat.mul_comm base, Nat.add_comm]

theorem shift_or {width digit : Nat} (small : digit < 2 ^ width) (fits : width ≤ 32) (value : Nat) :
    value <<< width % 2 ^ 32 ||| digit = (value * 2 ^ width + digit) % 2 ^ 32 := by
  have whole : 2 ^ 32 = 2 ^ (32 - width) * 2 ^ width := by rw [← pow_add, Nat.sub_add_cancel fits]
  rw [whole, append_digit_mod small, Nat.shiftLeft_eq, Nat.mul_mod_mul_right, ← Nat.shiftLeft_eq, ← Nat.shiftLeft_add_eq_or_of_lt small,
    Nat.shiftLeft_eq]

end Wire

namespace HeptaBao.Engines

open Wire Durable List

def base32 : Bytes := str "ABCDEFGHIJKLMNOPQRSTUVWXYZ234567"

def symbol (index : Nat) : UInt8 := base32.getD index 0

structure Buffer where
  accumulator : Nat := 0
  bits : Nat := 0
  output : Bytes := []

def Buffer.drain (state : Buffer) : Buffer :=
  if 5 ≤ state.bits then
    drain { state with
      bits := state.bits - 5
      output := state.output ++ [symbol (state.accumulator >>> (state.bits - 5) &&& 31)] }
  else state
termination_by state.bits

def Buffer.push (state : Buffer) (byte : UInt8) : Buffer :=
  Buffer.drain ⟨state.accumulator <<< 8 % 2 ^ 32 ||| byte.toNat, state.bits + 8, state.output⟩

def Buffer.mask (state : Buffer) : Buffer := { state with accumulator := state.accumulator &&& (1 <<< state.bits - 1) }

def Buffer.finish (state : Buffer) : Bytes :=
  if 0 < state.bits then state.output ++ [symbol (state.accumulator <<< (5 - state.bits) % 2 ^ 32 &&& 31)] else state.output

def encodeBase32 (bytes : Bytes) : Bytes := (bytes.foldl (fun state byte => (Buffer.push state byte).mask) {}).finish

-- The second encoder lets the bits already written run out of its accumulator.
def base32NoPadding (bytes : Bytes) : Bytes := (bytes.foldl Buffer.push {}).finish

def upper (byte : UInt8) : UInt8 := if 97 ≤ byte ∧ byte ≤ 122 then byte - 32 else byte

def decodeSymbol (state : Buffer) (ch : UInt8) : Except EngineError Buffer := do
  let value ← orFail (bad "invalid base32 TOTP key") (base32.findIdx? (· == upper ch))
  let accumulator := state.accumulator <<< 5 % 2 ^ 32 ||| value
  let bits := state.bits + 5
  if 8 ≤ bits then
    return ⟨accumulator &&& (1 <<< (bits - 8) - 1), bits - 8, state.output ++ [UInt8.ofNat (accumulator >>> (bits - 8))]⟩
  return ⟨accumulator, bits, state.output⟩

def decodeBase32 (text : Bytes) : Except EngineError Bytes := do
  refuse (256 < text.length) (bad "TOTP key encoding exceeds supported size")
  let unpadded := text.rdropWhile (· == 61)
  refuse (text.length ≠ unpadded.length ∧ (text.length % 8 ≠ 0 ∨ 6 < text.length - unpadded.length)) (bad "invalid base32 padding")
  let state ← unpadded.foldlM decodeSymbol {}
  refuse (state.accumulator ≠ 0 ∨ 5 ≤ state.bits) (bad "noncanonical base32 TOTP key")
  return state.output

def value (bytes : Bytes) : Nat := numeral 256 (bytes.map UInt8.toNat)

-- Digits and the unwritten low bits of the accumulator together are all that was read.
structure Spelled (total size : Nat) (state : Buffer) (digits : List Nat) : Prop where
  output : state.output = digits.map symbol
  small : ∀ digit ∈ digits, digit < 32
  size : 5 * digits.length + state.bits = size
  total : numeral 32 digits * 2 ^ state.bits + state.accumulator % 2 ^ state.bits = total

def Packed (bytes : Bytes) (state : Buffer) : Prop :=
  (∃ digits, Spelled (value bytes) (8 * bytes.length) state digits) ∧ state.bits < 5

structure Encodes (bytes : Bytes) (digits : List Nat) (spare : Nat) : Prop where
  small : ∀ digit ∈ digits, digit < 32
  few : spare < 5
  size : 5 * digits.length = 8 * bytes.length + spare
  total : numeral 32 digits = value bytes * 2 ^ spare

variable {bytes text : Bytes} {state : Buffer} {digits : List Nat}

theorem value_concat (bytes : Bytes) (byte : UInt8) : value (bytes ++ [byte]) = value bytes * 256 + byte.toNat := by
  rw [value, map_append, map_singleton, numeral_concat, value]

theorem value_injective {a b : Bytes} (size : a.length = b.length) (same : value a = value b) : a = b := by
  have bounded (bytes : Bytes) : ∀ digit ∈ bytes.map UInt8.toNat, digit < 256 := by simpa using fun byte _ => byte.toNat_lt
  exact map_injective_iff.mpr (fun _ _ => UInt8.toNat_inj.mp) (numeral_injective (by decide) (by simpa using size) (bounded a) (bounded b) same)

theorem small_concat {digit : Nat} (small : ∀ digit ∈ digits, digit < 32) (last : digit < 32) :
    ∀ other ∈ digits ++ [digit], other < 32 := by
  simpa [or_imp, forall_and, last] using small

theorem drain_spelled {total size : Nat} (spelled : Spelled total size state digits) :
    (∃ digits, Spelled total size state.drain digits) ∧ state.drain.bits < 5 := by
  fun_induction Buffer.drain state generalizing digits with
  | case1 state more ih =>
    obtain ⟨rest, same⟩ := Nat.exists_eq_add_of_le' more
    obtain ⟨output, small, counted, valued⟩ := spelled
    rw [same, Nat.add_sub_cancel] at ih ⊢
    refine @ih (digits ++ [state.accumulator >>> rest &&& 31])
      ⟨by simp [output], small_concat small (Nat.and_lt_two_pow _ (by decide : 31 < 2 ^ 5)), by simp; omega, ?_⟩
    have five : state.accumulator >>> rest &&& 31 = state.accumulator / 2 ^ rest % 2 ^ 5 := by
      rw [Nat.shiftRight_eq_div_pow]
      exact Nat.and_two_pow_sub_one_eq_mod _ 5
    rw [same, pow_add, Nat.mod_mul] at valued
    rw [numeral_concat, five, ← valued]
    ring
  | case2 state less => exact ⟨⟨digits, spelled⟩, by omega⟩

theorem push_packed (byte : UInt8) (packed : Packed bytes state) : Packed (bytes ++ [byte]) (state.push byte) := by
  obtain ⟨⟨digits, output, small, counted, valued⟩, few⟩ := packed
  refine drain_spelled ⟨output, small, by simp; omega, ?_⟩
  have low : state.accumulator <<< 8 % 2 ^ 32 ||| byte.toNat = (state.accumulator * 2 ^ 8 + byte.toNat) % 2 ^ 32 :=
    shift_or byte.toNat_lt (by decide) _
  dsimp only
  rw [low, Nat.mod_mod_of_dvd _ (pow_dvd_pow 2 (by omega)), pow_add, append_digit_mod byte.toNat_lt, value_concat, ← valued]
  ring

theorem mask_packed (packed : Packed bytes state) : Packed bytes state.mask := by
  obtain ⟨⟨digits, output, small, counted, valued⟩, few⟩ := packed
  refine ⟨⟨digits, output, small, counted, ?_⟩, few⟩
  change _ + (state.accumulator &&& (1 <<< state.bits - 1)) % 2 ^ state.bits = _
  rw [Nat.one_shiftLeft, Nat.and_two_pow_sub_one_eq_mod, Nat.mod_mod]
  exact valued

theorem finish_encodes (packed : Packed bytes state) :
    ∃ digits spare, Encodes bytes digits spare ∧ state.finish = digits.map symbol := by
  obtain ⟨⟨digits, output, small, counted, valued⟩, few⟩ := packed
  unfold Buffer.finish
  split
  · rename_i some
    have whole : 32 = 2 ^ state.bits * 2 ^ (5 - state.bits) := by rw [← pow_add, Nat.add_sub_cancel' few.le]; rfl
    have last : state.accumulator <<< (5 - state.bits) % 2 ^ 32 &&& 31 = state.accumulator % 2 ^ state.bits * 2 ^ (5 - state.bits) := by
      rw [← Nat.mul_mod_mul_right, ← whole, ← Nat.shiftLeft_eq]
      exact (Nat.and_two_pow_sub_one_eq_mod _ 5).trans (Nat.mod_mod_of_dvd _ (by decide))
    refine ⟨digits ++ [state.accumulator <<< (5 - state.bits) % 2 ^ 32 &&& 31], 5 - state.bits,
      ⟨small_concat small (Nat.and_lt_two_pow _ (by decide : 31 < 2 ^ 5)), by omega, by simp; omega, ?_⟩, by simp [output]⟩
    rw [numeral_concat, last, ← valued, add_mul, mul_assoc, ← whole]
  · have none : state.bits = 0 := by omega
    rw [none] at valued
    exact ⟨digits, 0, ⟨small, by decide, by omega, by simpa [Nat.mod_one] using valued⟩, output⟩

theorem run_encodes {step : Buffer → UInt8 → Buffer}
    (keeps : ∀ {bytes state} byte, Packed bytes state → Packed (bytes ++ [byte]) (step state byte)) (bytes : Bytes) :
    ∃ digits spare, Encodes bytes digits spare ∧ (bytes.foldl step {}).finish = digits.map symbol := by
  refine finish_encodes ?_
  induction bytes using reverseRecOn with
  | nil => exact ⟨⟨[], rfl, by simp, rfl, rfl⟩, show 0 < 5 by decide⟩
  | append_singleton bytes byte ih =>
    rw [foldl_append]
    exact keeps byte ih

theorem encodes_unique {a b : List Nat} {x y : Nat} (first : Encodes bytes a x) (second : Encodes bytes b y) :
    a = b := by
  obtain ⟨smallA, _, _, totalA⟩ := first
  obtain ⟨smallB, _, _, totalB⟩ := second
  obtain rfl : x = y := by omega
  exact numeral_injective (by decide) (by omega) smallA smallB (totalA.trans totalB.symm)

theorem encode_base32_encodes (bytes : Bytes) : ∃ digits spare, Encodes bytes digits spare ∧
    encodeBase32 bytes = digits.map symbol :=
  run_encodes (fun byte packed => mask_packed (push_packed byte packed)) bytes

-- The same picture from the other side: whole bytes and the digits' remaining bits.
structure Decoded (digits : List Nat) (state : Buffer) : Prop where
  few : state.bits < 8
  low : state.accumulator < 2 ^ state.bits
  size : 8 * state.output.length + state.bits = 5 * digits.length
  total : value state.output * 2 ^ state.bits + state.accumulator = numeral 32 digits

theorem position_some {byte : UInt8} {digit : Nat} : base32.findIdx? (· == byte) = some digit ↔ digit < 32 ∧
    byte = symbol digit := by
  have places : ∀ digit < 32, base32.findIdx? (· == symbol digit) = some digit := by decide
  refine ⟨fun found => ?_, fun ⟨small, same⟩ => same ▸ places digit small⟩
  obtain ⟨small, same, _⟩ := findIdx?_eq_some_iff_getElem.mp found
  exact ⟨small, by rw [symbol, getD_eq_getElem _ _ small]; exact (beq_iff_eq.mp same).symm⟩

theorem decode_symbol_decoded {digit : Nat} {ch : UInt8} (decoded : Decoded digits state)
    (small : digit < 32) (spelled : upper ch = symbol digit) : ∃ next, decodeSymbol state ch = .ok next ∧
      Decoded (digits ++ [digit]) next := by
  obtain ⟨few, low, counted, valued⟩ := decoded
  have bounded : state.accumulator * 32 + digit < 2 ^ (state.bits + 5) := by rw [pow_add]; omega
  have narrow : 2 ^ (state.bits + 5) ≤ 2 ^ 32 := Nat.pow_le_pow_right (by decide) (by omega)
  have shifted : state.accumulator <<< 5 % 2 ^ 32 ||| digit = state.accumulator * 32 + digit :=
    (shift_or small (by decide) _).trans (Nat.mod_eq_of_lt (by omega))
  have all : value state.output * 2 ^ (state.bits + 5) + (state.accumulator * 32 + digit) = numeral 32 (digits ++ [digit]) := by
    rw [numeral_concat, ← valued]
    ring
  simp only [decodeSymbol, position_some.mpr ⟨small, spelled⟩, orFail, bind, Except.bind, shifted]
  split
  · rename_i full
    obtain ⟨rest, same⟩ := Nat.exists_eq_add_of_le' full
    rw [same] at all bounded ⊢
    refine ⟨_, rfl, by dsimp only; omega, ?_, by simp; omega, ?_⟩
    · rw [Nat.one_shiftLeft, Nat.and_two_pow_sub_one_eq_mod]
      exact Nat.mod_lt _ (by positivity)
    · dsimp only
      have byte : (state.accumulator * 32 + digit) / 2 ^ rest < 256 := Nat.div_lt_of_lt_mul (by rwa [pow_add] at bounded)
      rw [value_concat, Nat.add_sub_cancel, Nat.one_shiftLeft, Nat.and_two_pow_sub_one_eq_mod, Nat.shiftRight_eq_div_pow,
        UInt8.toNat_ofNat_of_lt' byte, ← all, add_mul, add_assoc, Nat.div_add_mod']
      ring
  · exact ⟨_, rfl, by dsimp only; omega, bounded, by simp; omega, all⟩

theorem decode_run {before : List Nat} (decoded : Decoded before state)
    (small : ∀ digit ∈ digits, digit < 32) (spelled : text.map upper = digits.map symbol) :
    ∃ final, text.foldlM decodeSymbol state = .ok final ∧ Decoded (before ++ digits) final := by
  induction digits generalizing before state text with
  | nil =>
    obtain rfl := map_eq_nil_iff.mp spelled
    exact ⟨state, rfl, by simpa using decoded⟩
  | cons digit digits ih =>
    obtain ⟨ch, text, rfl, first, later⟩ := map_eq_cons_iff.mp spelled
    obtain ⟨next, made, kept⟩ := decode_symbol_decoded decoded (small digit mem_cons_self) first
    obtain ⟨final, run, all⟩ := ih kept (fun other mem => small other (mem_cons_of_mem _ mem)) later
    refine ⟨final, ?_, by simpa using all⟩
    rw [foldlM_cons, made]
    exact run

theorem decode_text (small : ∀ digit ∈ digits, digit < 32) (spelled : text.map upper = digits.map symbol) :
    ∃ final, text.foldlM decodeSymbol {} = .ok final ∧ Decoded digits final :=
  decode_run (show Decoded [] {} from ⟨by decide, by decide, rfl, rfl⟩) small spelled

theorem accepted_digits {final : Buffer} (run : text.foldlM decodeSymbol state = .ok final) :
    ∃ digits : List Nat, (∀ digit ∈ digits, digit < 32) ∧ text.map upper = digits.map symbol := by
  induction text generalizing state with
  | nil => exact ⟨[], by simp, rfl⟩
  | cons ch text ih =>
    rw [foldlM_cons] at run
    obtain ⟨next, made, run⟩ := bind_ok run
    obtain ⟨digit, found, _⟩ := bind_ok made
    obtain ⟨digits, small, spelled⟩ := ih run
    obtain ⟨first, same⟩ := position_some.mp (or_fail_ok found)
    exact ⟨digit :: digits, by simpa [first] using small, by simp [same, spelled]⟩

def padding (code : Bytes) : Bytes := replicate ((8 - code.length % 8) % 8) 61

-- A text that differs from the code in letter case and standard padding only.
def Writes (text code : Bytes) : Prop := text.map upper = code ∨ text.map upper = code ++ padding code

theorem upper_equals {byte : UInt8} : upper byte = 61 ↔ byte = 61 := by
  unfold upper
  split
  · rename_i small
    refine ⟨fun same => ?_, fun same => ?_⟩
    · rw [← UInt8.sub_add_cancel byte 32, same] at small
      exact absurd small (by decide)
    · rw [same] at small
      exact absurd small (by decide)
  · rfl

theorem symbol_facts : ∀ digit < 32, symbol digit ≠ 61 ∧ upper (symbol digit) = symbol digit := by decide

theorem trim_padded {front : Bytes} (small : ∀ digit ∈ digits, digit < 32)
    (spelled : front.map upper = digits.map symbol)
    (count : Nat) : (front ++ replicate count 61).rdropWhile (· == 61) = front := by
  induction count with
  | zero =>
    rw [replicate_zero, append_nil, rdropWhile_eq_self_iff]
    intro some last
    obtain ⟨digit, mem, same⟩ := mem_map.mp (spelled ▸ mem_map_of_mem (f := upper) (getLast_mem some))
    rw [beq_iff_eq.mp last] at same
    exact (symbol_facts digit (small digit mem)).1 same
  | succ count ih => rw [replicate_succ', ← append_assoc, rdropWhile_concat_pos _ _ _ rfl, ih]

theorem decode_accepts (short : bytes.length ≤ 160) (writes : Writes text (encodeBase32 bytes)) :
    decodeBase32 text = .ok bytes := by
  obtain ⟨digits, spare, ⟨small, bound, sizes, total⟩, code⟩ := encode_base32_encodes bytes
  have padded : ∃ front count, text = front ++ replicate count 61 ∧ front.map upper = digits.map symbol ∧
      (count = 0 ∨ count = (8 - digits.length % 8) % 8) := by
    rcases writes with same | same
    · exact ⟨text, 0, by simp, same.trans code, .inl rfl⟩
    · obtain ⟨front, rest, rfl, first, later⟩ := map_eq_append_iff.mp same
      have equals : rest = replicate ((8 - digits.length % 8) % 8) 61 := by
        rw [padding, code, length_map, eq_replicate_iff, length_map] at later
        exact eq_replicate_iff.mpr ⟨later.1, fun byte mem => upper_equals.mp (later.2 _ (mem_map_of_mem mem))⟩
      exact ⟨front, _, by rw [equals], first.trans code, .inr rfl⟩
  obtain ⟨front, count, rfl, spelled, standard⟩ := padded
  have length : front.length = digits.length := by simpa using congrArg List.length spelled
  obtain ⟨state, run, few, low, counted, valued⟩ := decode_text small spelled
  obtain rfl : state.bits = spare := by omega
  rw [total] at valued
  have empty : state.accumulator = 0 := by
    rw [← Nat.mod_eq_of_lt low, ← Nat.mul_add_mod' (value state.output), valued, Nat.mul_mod_left]
  rw [empty, Nat.add_zero] at valued
  have same : state.output = bytes := value_injective (by omega) (Nat.eq_of_mul_eq_mul_right (by positivity) valued)
  rw [decodeBase32, trim_padded small spelled]
  simp only [run, refuse, length_append, length_replicate, length, empty, bind, Except.bind]
  rw [if_neg (by omega), if_neg (by omega), if_neg (by omega)]
  exact congrArg Except.ok same

theorem decode_writes (accepted : decodeBase32 text = .ok bytes) : Writes text (encodeBase32 bytes) := by
  obtain ⟨_, _, accepted⟩ := bind_ok accepted
  obtain ⟨_, padded, accepted⟩ := bind_ok accepted
  obtain ⟨state, run, accepted⟩ := bind_ok accepted
  obtain ⟨_, canonical, done⟩ := bind_ok accepted
  cases done
  obtain ⟨digits, small, spelled⟩ := accepted_digits run
  obtain ⟨_, again, _, _, counted, valued⟩ := decode_text small spelled
  cases run.symm.trans again
  have clean := refuse_ok canonical
  have empty : state.accumulator = 0 := by omega
  rw [empty, Nat.add_zero] at valued
  obtain ⟨_, _, encodes, same⟩ := encode_base32_encodes state.output
  have canon : Encodes state.output digits state.bits := ⟨small, by omega, counted.symm, valued.symm⟩
  obtain rfl := encodes_unique canon encodes
  have split : text.rdropWhile (· == 61) ++ text.rtakeWhile (· == 61) = text := rdropWhile_append_rtakeWhile
  have equals : text.rtakeWhile (· == 61) = replicate (text.rtakeWhile (· == 61)).length 61 :=
    eq_replicate_iff.mpr ⟨rfl, fun byte mem => by simpa using mem_rtakeWhile_imp mem⟩
  have total := congrArg List.length split
  have length : (text.rdropWhile (· == 61)).length = digits.length := by simpa using congrArg List.length spelled
  have allowed := refuse_ok padded
  rw [length_append, length] at total
  rw [Writes, same, ← split, map_append, spelled, equals, map_replicate, upper_equals.mpr rfl, padding, length_map]
  by_cases bare : (text.rtakeWhile (· == 61)).length = 0
  · exact .inl (by simp [bare])
  · exact .inr (by congr 2; omega)

theorem encode_upper (bytes : Bytes) : (encodeBase32 bytes).map upper = encodeBase32 bytes := by
  obtain ⟨digits, spare, encodes, code⟩ := encode_base32_encodes bytes
  rw [code, map_map]
  exact map_congr_left fun digit mem => (symbol_facts digit (encodes.small digit mem)).2

/-- What the decoder accepts, and that it inverts the encoder. -/
theorem base32_codec : (∀ bytes : Bytes, bytes.length ≤ 160 → decodeBase32 (encodeBase32 bytes) = .ok bytes ∧
      ∀ text, Writes text (encodeBase32 bytes) → decodeBase32 text = .ok bytes) ∧
      (∀ text bytes, decodeBase32 text = .ok bytes → Writes text (encodeBase32 bytes)) ∧
        ∀ bytes, base32NoPadding bytes = encodeBase32 bytes := by
  refine ⟨fun bytes short => ⟨decode_accepts short (.inl (encode_upper bytes)), fun _ => decode_accepts short⟩,
    fun _ _ => decode_writes, fun bytes => ?_⟩
  obtain ⟨digits, _, encodes, code⟩ := encode_base32_encodes bytes
  obtain ⟨others, _, also, text⟩ := run_encodes push_packed bytes
  rw [base32NoPadding, text, code, encodes_unique encodes also]

end HeptaBao.Engines
