import HeptaBao.Wire.Json
import Mathlib.Data.List.DropRight

namespace Wire

open List

-- Text is its UTF-8 bytes. The separators below are ASCII.
def stripPrefix (front text : Bytes) : Option Bytes :=
  if front.isPrefixOf text then some (text.drop front.length) else none

def stripSuffix (back text : Bytes) : Option Bytes :=
  if back.isSuffixOf text then some (text.take (text.length - back.length)) else none

def splitOnce (separator : UInt8) : Bytes → Option (Bytes × Bytes)
  | [] => none
  | byte :: rest =>
    if byte = separator then some ([], rest)
    else (splitOnce separator rest).map fun parts => (byte :: parts.1, parts.2)

def trimStartMatches (byte : UInt8) (text : Bytes) : Bytes := text.dropWhile (· == byte)

def trimEndMatches (byte : UInt8) (text : Bytes) : Bytes := text.rdropWhile (· == byte)

def containsText (pattern text : Bytes) : Bool := text.tails.any pattern.isPrefixOf

theorem strip_prefix_some {front text rest : Bytes} (stripped : stripPrefix front text = some rest) :
    text = front ++ rest := by
  unfold stripPrefix at stripped
  by_cases starts : front.isPrefixOf text = true
  · rw [if_pos starts] at stripped
    obtain ⟨_, rfl⟩ := isPrefixOf_iff_prefix.mp starts
    simpa using stripped
  · simp [starts] at stripped

@[simp] theorem strip_prefix_append (front rest : Bytes) : stripPrefix front (front ++ rest) = some rest := by
  have starts : front.isPrefixOf (front ++ rest) = true := isPrefixOf_iff_prefix.mpr (prefix_append _ _)
  simp [stripPrefix, starts]

theorem split_once_append (separator : UInt8) (head tail : Bytes) (apart : separator ∉ head) :
    splitOnce separator (head ++ separator :: tail) = some (head, tail) := by
  induction head with
  | nil => simp [splitOnce]
  | cons byte head ih =>
    have different : byte ≠ separator := fun same => apart (by simp [same])
    have later : separator ∉ head := fun member => apart (by simp [member])
    simp [splitOnce, different, ih later]

def asciiLower (byte : UInt8) : UInt8 := if 65 ≤ byte ∧ byte ≤ 90 then byte + 32 else byte

def u64Max : Nat := 2 ^ 64 - 1

-- u64::from_str takes one leading plus sign.
def parseU64 (text : Bytes) : Option Nat :=
  let digits := (stripPrefix [43] text).getD text
  if digits = [] ∨ digits.all asciiDigit = false ∨ u64Max < fromDecimal digits then none else some (fromDecimal digits)

-- char::is_control: below U+0020, U+007F, and U+0080 to U+009F behind 0xC2.
def anyControl : Bytes → Bool
  | [] => false
  | byte :: rest => byte < 32 || byte == 127 || (byte == 194 && rest.head?.any (fun next => 128 ≤ next && next < 160)) || anyControl rest

-- The white space characters of Unicode, by their UTF-8 bytes.
def whiteSpace : List Bytes :=
  [[9], [10], [11], [12], [13], [32], [194, 133], [194, 160], [225, 154, 128]] ++ ((range 11).map fun low => [226, 128, UInt8.ofNat (128 + low)]) ++
    [[226, 128, 168], [226, 128, 169], [226, 128, 175], [226, 129, 159], [227, 128, 128]]

def skipAny (pieces : List Bytes) : Nat → Bytes → Bytes
  | 0, text => text
  | fuel + 1, text =>
    match pieces.findSome? (stripPrefix · text) with
    | none => text
    | some rest => skipAny pieces fuel rest

def trimStart (text : Bytes) : Bytes := skipAny whiteSpace text.length text

def trimEnd (text : Bytes) : Bytes := (skipAny (whiteSpace.map List.reverse) text.length text.reverse).reverse

def trim (text : Bytes) : Bytes := trimEnd (trimStart text)

theorem skip_any_invariant (pieces : List Bytes) (holds : Bytes → Prop)
    (step : ∀ piece ∈ pieces, ∀ rest, holds (piece ++ rest) → holds rest) (fuel : Nat) (text : Bytes)
    (start : holds text) :
    holds (skipAny pieces fuel text) := by
  induction fuel generalizing text with
  | zero => exact start
  | succ _ ih =>
    rw [skipAny]
    cases found : pieces.findSome? (stripPrefix · text) with
    | none => exact start
    | some rest =>
      obtain ⟨piece, listed, stripped⟩ := exists_of_findSome?_eq_some found
      rw [strip_prefix_some stripped] at start
      exact ih rest (step piece listed rest start)

theorem trim_invariant {holds : Bytes → Prop} (front : ∀ piece ∈ whiteSpace, ∀ rest, holds (piece ++ rest) → holds rest)
    (back : ∀ piece ∈ whiteSpace, ∀ rest, holds (rest ++ piece) → holds rest) {text : Bytes} (start : holds text) :
      holds (trim text) := by
  have trimmed := skip_any_invariant whiteSpace holds front text.length text start
  refine skip_any_invariant _ (fun reversed => holds reversed.reverse) ?_ _ _ ?_
  · intro reversed listed rest kept
    obtain ⟨piece, member, rfl⟩ := mem_map.mp listed
    rw [reverse_append, reverse_reverse] at kept
    exact back piece member _ kept
  · rw [reverse_reverse]
    exact trimmed

end Wire
