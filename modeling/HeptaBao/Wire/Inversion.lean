import HeptaBao.Wire.Reader

namespace Wire

open List

theorem little_from_little (bytes : Bytes) : fromLittle bytes < 256 ^ bytes.length ∧
    little bytes.length (fromLittle bytes) = bytes := by
  induction bytes with
  | nil => exact ⟨by simp [fromLittle], rfl⟩
  | cons byte rest ih =>
    obtain ⟨_, same⟩ := ih
    have low := byte.toNat_lt
    have shift : (byte.toNat + 256 * fromLittle rest) / 256 = fromLittle rest := by omega
    have keep : UInt8.ofNat (byte.toNat + 256 * fromLittle rest) = byte := by
      apply UInt8.toNat_inj.mp
      rw [UInt8.toNat_ofNat']
      omega
    refine ⟨?_, ?_⟩
    · rw [fromLittle, length_cons, Nat.pow_succ]
      omega
    · rw [length_cons, little, fromLittle, shift, same, keep]

theorem big_from_big {bytes : Bytes} {width : Nat} (size : bytes.length = width) :
    fromBig bytes < 256 ^ width ∧ big width (fromBig bytes) = bytes := by
  obtain ⟨small, same⟩ := little_from_little bytes.reverse
  rw [length_reverse, size] at small same
  refine ⟨small, ?_⟩
  rw [big, fromBig, same, reverse_reverse]

variable {input rest : Bytes}

namespace Reader

variable {ε α β : Type}

def bigEndian (flaw : ε) (width : Nat) : Reader ε Nat := exact flaw width >>= fun bytes => pure (fromBig bytes)

theorem reads_big (flaw : ε) (width value : Nat) (bounded : value < 256 ^ width) : Reads (bigEndian flaw width)
    (big width value) value := by
  have read := reads_map (exact flaw width) fromBig (big width value) _ (reads_exact flaw width _ (big_length width value))
  rwa [from_big bounded] at read

theorem bind_reads {first : Reader ε α} {next : α → Reader ε β} {head : Bytes} {value : α}
    (reads : Reads first head value) (tail : Bytes) : (first >>= next) (head ++ tail) = next value tail := by
  rw [bind_apply, reads]

-- The other direction: what an answer says about the input.
theorem bind_inverse {first : Reader ε α} {next : α → Reader ε β} {answer : β × Bytes}
    (answered : (first >>= next) input = .ok answer) :
    ∃ value rest, first input = .ok (value, rest) ∧ next value rest = .ok answer := by
  rw [bind_apply] at answered
  cases read : first input with
  | error =>
    rw [read] at answered
    cases answered
  | ok outcome =>
    rw [read] at answered
    exact ⟨outcome.1, outcome.2, rfl, answered⟩

theorem lift_inverse {res : Except ε α} {value : α} (answered : lift res input = .ok (value, rest)) :
    res = .ok value ∧ input = rest := by
  cases res with
  | error => cases answered
  | ok =>
    cases answered
    exact ⟨rfl, rfl⟩

theorem exact_inverse {flaw : ε} {count : Nat} {bytes : Bytes}
    (answered : exact flaw count input = .ok (bytes, rest)) : input = bytes ++ rest ∧ bytes.length = count := by
  rw [exact] at answered
  by_cases enough : count ≤ input.length
  · rw [if_pos enough] at answered
    cases answered
    exact ⟨(take_append_drop count input).symm, length_take_of_le enough⟩
  · rw [if_neg enough] at answered
    cases answered

theorem big_inverse {flaw : ε} {width value : Nat} (answered : bigEndian flaw width input = .ok (value, rest)) :
    value < 256 ^ width ∧ input = big width value ++ rest := by
  obtain ⟨bytes, _, read, same⟩ := bind_inverse answered
  obtain ⟨split, size⟩ := exact_inverse read
  cases same
  obtain ⟨small, back⟩ := big_from_big size
  exact ⟨small, by rw [back, split]⟩

end Reader

end Wire
