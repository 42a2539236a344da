import HeptaBao.Wire.SortedMap

namespace Wire

open Std List

variable (byte : UInt8)

def asciiDigit : Bool := 48 ≤ byte && byte ≤ 57

def decimal (value : Nat) : Bytes := (Nat.toDigits 10 value).map fun c => UInt8.ofNat c.toNat

def fromDecimal (digits : Bytes) : Nat := digits.foldl (fun total byte => 10 * total + (byte.toNat - 48)) 0

theorem digit_char_byte (c : Char) (digit : c.isDigit = true) : asciiDigit (UInt8.ofNat c.toNat) = true ∧
    (UInt8.ofNat c.toNat).toNat = c.toNat := by
  simp only [Char.isDigit, Bool.and_eq_true, decide_eq_true_eq, ge_iff_le] at digit
  have low : 48 ≤ c.toNat := by simpa using UInt32.le_iff_toNat_le.mp digit.1
  have high : c.toNat ≤ 57 := by simpa using UInt32.le_iff_toNat_le.mp digit.2
  have small : c.toNat < 256 := by omega
  have exact : (UInt8.ofNat c.toNat).toNat = c.toNat := by
    rw [UInt8.toNat_ofNat']
    exact Nat.mod_eq_of_lt small
  refine ⟨?_, exact⟩
  simp only [asciiDigit, Bool.and_eq_true, decide_eq_true_eq, UInt8.le_iff_toNat_le, exact]
  exact ⟨low, high⟩

theorem decimal_digits {value : Nat} : ∀ byte ∈ decimal value, asciiDigit byte = true := by
  intro byte member
  obtain ⟨c, listed, rfl⟩ := mem_map.mp member
  exact (digit_char_byte c (Nat.isDigit_of_mem_toDigits (by omega) (by omega) listed)).1

theorem decimal_nonempty (value : Nat) : decimal value ≠ [] := by
  intro empty
  exact Nat.toDigits_ne_nil (map_eq_nil_iff.mp empty)

theorem from_decimal (value : Nat) : fromDecimal (decimal value) = value := by
  have digits := fun c listed => (digit_char_byte c (Nat.isDigit_of_mem_toDigits (b := 10) (n := value) (by omega) (by omega) listed)).2
  have same : ∀ (chars : List Char) (start : Nat), (∀ c ∈ chars, (UInt8.ofNat c.toNat).toNat = c.toNat) →
      (chars.map fun c => UInt8.ofNat c.toNat).foldl (fun total byte => 10 * total + (byte.toNat - 48)) start = Nat.ofDigitChars 10 chars start := by
    intro chars
    induction chars with
    | nil => exact fun _ _ => rfl
    | cons c _ ih =>
      intro start exactly
      rw [map_cons, foldl_cons, ih _ (fun other listed => exactly other (mem_cons_of_mem _ listed)), exactly c mem_cons_self]
      rfl
  rw [fromDecimal, decimal, same _ 0 digits, Nat.ofDigitChars_toDigits (by omega) (by omega)]

variable (lead : Bytes)

namespace Json

-- What may follow a value: nothing, or a byte that does not continue a number.
def Stops (rest : Bytes) : Prop := ∀ byte, rest.head? = some byte → asciiDigit byte = false

theorem stops_cons (rest : Bytes) (apart : asciiDigit byte = false) : Stops (byte :: rest) := by
  intro other same
  cases same
  exact apart

def punctuation : Bytes → Bool
  | [] => false
  | byte :: _ => !asciiDigit byte

theorem punctuation_stops {lead : Bytes} (starts : punctuation lead = true) (rest : Bytes) : Stops (lead ++ rest) := by
  cases lead with
  | nil => cases starts
  | cons byte => exact stops_cons byte _ (by simpa [punctuation] using starts)

-- A compact text form of a type together with the proof that it reads back.
structure Format (α : Type) where
  write : α → Bytes
  read : Reader Unit α
  reads : ∀ value rest, Stops rest → read (write value ++ rest) = .ok (value, rest)

-- The rest of an object: it starts with punctuation, so a number may precede it.
structure Tail (α : Type) extends Format α where
  stops : ∀ value rest, Stops (write value ++ rest)

-- A format with a known first byte for every value.
def Format.Begins {α : Type} (format : Format α) (accepts : UInt8 → Bool) : Prop :=
  ∀ value rest, ∃ byte tail, format.write value ++ rest = byte :: tail ∧ accepts byte = true

def Format.toVec {α : Type} (format : Format α) (value : α) : Bytes := format.write value

def Format.fromSlice {α : Type} (format : Format α) (bytes : Bytes) : Option α :=
  (Reader.complete () format.read bytes).toOption

theorem Format.from_slice_to_vec {α : Type} (format : Format α) (value : α) : format.fromSlice (format.toVec value) =
    some value := by
  have read := format.reads value [] (fun _ none => nomatch none)
  rw [append_nil] at read
  simp [Format.fromSlice, Format.toVec, Reader.complete, read, Except.toOption]

def expect : Bytes → Reader Unit Unit
  | [] => pure ()
  | byte :: text => fun input =>
    match input with
    | [] => .error ()
    | other :: rest => if byte = other then expect text rest else .error ()

theorem expect_reads (text rest : Bytes) : expect text (text ++ rest) = .ok ((), rest) := by
  induction text with
  | nil => rfl
  | cons _ _ ih => simpa [expect] using ih

-- Two texts that differ before either ends.
def conflict : Bytes → Bytes → Bool
  | a :: as, b :: bs => a ≠ b || conflict as bs
  | _, _ => false

theorem expect_conflict (other rest : Bytes) (differ : conflict lead other = true) : expect lead (other ++ rest) =
    .error () := by
  induction lead generalizing other with
  | nil => cases differ
  | cons a _ ih =>
    cases other with
    | nil => cases differ
    | cons b other =>
      by_cases same : a = b
      · simp only [cons_append, expect, if_pos same]
        exact ih other (by simpa [conflict, same] using differ)
      · simp only [cons_append, expect, if_neg same]

def number : Format Nat where
  write := decimal
  read := fun input =>
    match input.takeWhile asciiDigit with
    | [] => .error ()
    | digits => .ok (fromDecimal digits, input.dropWhile asciiDigit)
  reads := fun value rest stops => by
    have ends : rest.takeWhile asciiDigit = [] ∧ rest.dropWhile asciiDigit = rest := by
      cases rest with
      | nil => exact ⟨rfl, rfl⟩
      | cons byte => simp [stops byte rfl]
    have taken : (decimal value ++ rest).takeWhile asciiDigit = decimal value := by
      rw [takeWhile_append_of_pos (decimal_digits), ends.1, append_nil]
    rw [taken, dropWhile_append_of_pos (decimal_digits), ends.2]
    split
    · rename_i empty
      exact absurd empty (decimal_nonempty value)
    · rw [from_decimal]

-- serde_json escapes the quote, the backslash and the control characters.
def hexLow (value : Nat) : UInt8 := UInt8.ofNat (if value < 10 then 48 + value else 87 + value)

def escape : Bytes :=
  if byte = 34 then [92, 34]
  else if byte = 92 then [92, 92]
  else if byte = 8 then [92, 98]
  else if byte = 9 then [92, 116]
  else if byte = 10 then [92, 110]
  else if byte = 12 then [92, 102]
  else if byte = 13 then [92, 114]
  else if byte < 32 then [92, 117, 48, 48, hexLow (byte.toNat / 16), hexLow (byte.toNat % 16)]
  else [byte]

def hexLowValue : Nat := if byte < 58 then byte.toNat - 48 else byte.toNat - 87

def readChars : Bytes → Option (Bytes × Bytes)
  | [] => none
  | 34 :: rest => some ([], rest)
  | 92 :: 117 :: 48 :: 48 :: high :: low :: rest =>
    (readChars rest).map fun (text, left) => (UInt8.ofNat (16 * hexLowValue high + hexLowValue low) :: text, left)
  | 92 :: code :: rest =>
    let byte : UInt8 :=
      if code = 98 then 8 else if code = 116 then 9 else if code = 110 then 10 else if code = 102 then 12
      else if code = 114 then 13 else code
    (readChars rest).map fun (text, left) => (byte :: text, left)
  | byte :: rest => (readChars rest).map fun (text, left) => (byte :: text, left)

theorem read_chars_escape {rest text left : Bytes} (read : readChars rest = some (text, left)) :
    readChars (escape byte ++ rest) = some (byte :: text, left) := by
  unfold escape
  split_ifs with h1 h2 h3 h4 h5 h6 h7 h8
  · simp [readChars, read, h1]
  · simp [readChars, read, h2]
  · simp [readChars, read, h3]
  · simp [readChars, read, h4]
  · simp [readChars, read, h5]
  · simp [readChars, read, h6]
  · simp [readChars, read, h7]
  · have control : ∀ value : Fin 32, UInt8.ofNat (16 * hexLowValue (hexLow (value.val / 16)) + hexLowValue (hexLow (value.val % 16))) =
        UInt8.ofNat value.val := by decide
    have small : byte.toNat < 32 := UInt8.lt_iff_toNat_lt.mp h8
    have same := control ⟨byte.toNat, small⟩
    simp only [UInt8.ofNat_toNat] at same
    simp [readChars, read, same]
  · rw [cons_append, nil_append, readChars, read]
    · rfl
    · exact h1
    · intro _ _ _ wrong
      exact absurd wrong h2
    · intro _ _ wrong
      exact absurd wrong h2

def text : Format Bytes where
  write := fun value => 34 :: (value.flatMap escape ++ [34])
  read := fun input =>
    match input with
    | 34 :: rest =>
      match readChars rest with
      | some res => .ok res
      | none => .error ()
    | _ => .error ()
  reads := fun value rest _ => by
    have chars : ∀ value : Bytes, readChars (value.flatMap escape ++ 34 :: rest) = some (value, rest) := by
      intro value
      induction value with
      | nil => simp [readChars]
      | cons byte value ih =>
        rw [flatMap_cons, append_assoc]
        exact read_chars_escape byte ih
    simp [chars]

section

variable {α β : Type}

def Format.map (format : Format α) (into : α → β) (back : β → α) (inverse : ∀ value, into (back value) = value) :
    Format β where
  write := fun value => format.write (back value)
  read := format.read >>= fun value => pure (into value)
  reads := fun value rest stops => by
    rw [Reader.bind_apply, format.reads (back value) rest stops]
    simp only [inverse]
    rfl

def null : Bytes := [110, 117, 108, 108]

def Format.option (format : Format α) (apart : format.Begins (· ≠ 110)) : Format (Option α) where
  write := fun value =>
    match value with
    | none => null
    | some value => format.write value
  read := fun input =>
    match input with
    | 110 :: _ => (expect null >>= fun _ => pure none) input
    | _ => (format.read >>= fun value => pure (some value)) input
  reads := fun value rest stops => by
    cases value with
    | none => rfl
    | some value =>
      obtain ⟨byte, tail, shape, other⟩ := apart value rest
      simp only [shape]
      split
      · rename_i wrong
        cases wrong
        simp at other
      · rw [Reader.bind_apply, ← shape, format.reads value rest stops]
        rfl

def Tail.close (closing : Bytes) (starts : punctuation closing = true) : Tail Unit where
  write := fun _ => closing
  read := expect closing
  reads := fun _ rest _ => expect_reads closing rest
  stops := fun _ rest => punctuation_stops starts rest

def Tail.field (starts : punctuation lead = true) (format : Format α) (next : Tail β) : Tail (α × β) where
  write := fun (value, others) => lead ++ (format.write value ++ next.write others)
  read := do
    expect lead
    let value ← format.read
    let others ← next.read
    return (value, others)
  reads := fun (value, others) rest stops => by
    simp only [append_assoc]
    rw [Reader.bind_apply, expect_reads]
    simp only
    rw [Reader.bind_apply, format.reads value _ (next.stops others rest)]
    simp only
    rw [Reader.bind_apply, next.reads others rest stops]
    rfl
  stops := fun (value, others) rest => by
    simp only [append_assoc]
    exact punctuation_stops starts _

-- The members of an object by name: the first one opens it.
def Tail.first (name : Bytes) (format : Format α) (next : Tail β) : Tail (α × β) :=
  field (123 :: 34 :: (name ++ [34, 58])) rfl format next

def Tail.later (name : Bytes) (format : Format α) (next : Tail β) : Tail (α × β) :=
  field (44 :: 34 :: (name ++ [34, 58])) rfl format next

def Tail.closing : Tail Unit := close [125] rfl

def Format.pair (middle : Bytes) (starts : punctuation middle = true) (first : Format α) (second : Format β) :
    Format (α × β) where
  write := fun (a, b) => lead ++ (first.write a ++ (middle ++ second.write b))
  read := do
    expect lead
    let a ← first.read
    expect middle
    let b ← second.read
    return (a, b)
  reads := fun (a, b) rest stops => by
    simp only [append_assoc]
    rw [Reader.bind_apply, expect_reads]
    simp only
    rw [Reader.bind_apply, first.reads a _ (punctuation_stops starts _)]
    simp only
    rw [Reader.bind_apply, expect_reads]
    simp only
    rw [Reader.bind_apply, second.reads b rest stops]
    rfl

def unit : Format Unit where
  write := fun _ => []
  read := pure ()
  reads := fun _ _ _ => rfl

def Format.either (other : Bytes) (apart : ∀ rest, expect lead (other ++ rest) = .error ()) (first : Format α)
    (second : Format β) : Format (α ⊕ β) where
  write := fun value =>
    match value with
    | .inl a => lead ++ first.write a
    | .inr b => other ++ second.write b
  read := fun input =>
    match expect lead input with
    | .ok (_, rest) => (first.read >>= fun a => pure (.inl a)) rest
    | .error _ => (expect other >>= fun _ => second.read >>= fun b => pure (.inr b)) input
  reads := fun value rest stops => by
    cases value with
    | inl a =>
      simp only [append_assoc, expect_reads]
      rw [Reader.bind_apply, first.reads a rest stops]
      rfl
    | inr b =>
      simp only [append_assoc, apart]
      rw [Reader.bind_apply, expect_reads]
      simp only
      rw [Reader.bind_apply, second.reads b rest stops]
      rfl

def Format.orElse (first : Format α) (second : Format β)
    (apart : ∀ value rest, expect lead (second.write value ++ rest) = .error ()) : Format (α ⊕ β) where
  write := fun value =>
    match value with
    | .inl a => lead ++ first.write a
    | .inr b => second.write b
  read := fun input =>
    match expect lead input with
    | .ok (_, rest) => (first.read >>= fun a => pure (.inl a)) rest
    | .error _ => (second.read >>= fun b => pure (.inr b)) input
  reads := fun value rest stops => by
    cases value with
    | inl a =>
      simp only [append_assoc, expect_reads]
      rw [Reader.bind_apply, first.reads a rest stops]
      rfl
    | inr b =>
      simp only [apart]
      rw [Reader.bind_apply, second.reads b rest stops]
      rfl

def Format.among (format : Format α) (into : α → Option β) (back : β → α)
    (inverse : ∀ value, into (back value) = some value) : Format β where
  write := fun value => format.write (back value)
  read := format.read >>= fun value =>
    match into value with
    | some other => pure other
    | none => fun _ => .error ()
  reads := fun value rest stops => by
    rw [Reader.bind_apply, format.reads (back value) rest stops]
    simp only [inverse]
    rfl

def writeItems (item : Format α) (closing : UInt8) : List α → Bytes
  | [] => [closing]
  | [value] => item.write value ++ [closing]
  | value :: values => item.write value ++ (44 :: writeItems item closing values)

def readItems (item : Format α) (closing : UInt8) : Nat → Bytes → Except Unit (List α × Bytes)
  | 0, _ => .error ()
  | fuel + 1, input =>
    match item.read input with
    | .error flaw => .error flaw
    | .ok (_, []) => .error ()
    | .ok (value, byte :: rest) =>
      if byte = closing then .ok ([value], rest)
      else if byte = 44 then (readItems item closing fuel rest).map fun (values, left) => (value :: values, left)
      else .error ()

theorem read_items (item : Format α) (closing : UInt8) (apart : asciiDigit closing = false) (comma : closing ≠ 44)
    (value : α)
    (values : List α) (fuel : Nat) (rest : Bytes) (enough : values.length < fuel) :
    readItems item closing fuel (writeItems item closing (value :: values) ++ rest) = .ok (value :: values, rest) := by
  induction values generalizing value fuel with
  | nil =>
    obtain ⟨fuel, rfl⟩ : ∃ more, fuel = more + 1 := ⟨fuel - 1, by simp at enough; omega⟩
    have front := item.reads value (closing :: rest) (stops_cons closing rest apart)
    simp [writeItems, readItems, front]
  | cons other values ih =>
    obtain ⟨fuel, rfl⟩ : ∃ more, fuel = more + 1 := ⟨fuel - 1, by simp at enough; omega⟩
    have inner := ih other fuel (by simpa using enough)
    have front := item.reads value (44 :: (writeItems item closing (other :: values) ++ rest)) (stops_cons 44 _ (by decide))
    simp [writeItems, readItems, front, comma.symm, inner, Except.map]

theorem write_items_cons (item : Format α) (closing : UInt8) (value : α) (values : List α) :
    (writeItems item closing (value :: values)).length =
      (item.write value).length + (writeItems item closing values).length + if values = [] then 0 else 1 := by
  cases values with
  | nil => simp [writeItems]
  | cons =>
    rw [writeItems]
    · simp only [length_append, length_cons, reduceCtorEq, if_false]
      omega
    · simp

theorem write_items_length (item : Format α) (closing : UInt8) (values : List α) :
    values.length ≤ (writeItems item closing values).length + 1 ∧ 0 < (writeItems item closing values).length := by
  induction values with
  | nil => simp [writeItems]
  | cons _ values ih =>
    rw [write_items_cons, length_cons]
    cases values with
    | nil => simp [writeItems]
    | cons =>
      simp only [reduceCtorEq, if_false]
      omega

theorem write_items_least (item : Format α) (closing : UInt8) (least : Nat) (values : List α)
    (each : ∀ value ∈ values, least ≤ (item.write value).length) :
    values.length * least ≤ (writeItems item closing values).length := by
  induction values with
  | nil => simp
  | cons value _ ih =>
    have here := each value mem_cons_self
    have later := ih fun other member => each other (mem_cons_of_mem _ member)
    rw [write_items_cons, length_cons, Nat.succ_mul]
    omega

def Format.list (item : Format α) (opening closing : UInt8) (apart : asciiDigit closing = false) (comma : closing ≠ 44)
    (begins : item.Begins (· ≠ closing)) : Format (List α) where
  write := fun values => opening :: writeItems item closing values
  read := fun input =>
    match input with
    | [] => .error ()
    | byte :: rest =>
      if byte ≠ opening then .error ()
      else if rest.head? = some closing then .ok ([], rest.drop 1)
      else readItems item closing (rest.length + 1) rest
  reads := fun values rest stops => by
    cases values with
    | nil => simp [writeItems]
    | cons value values =>
      have nonempty : ∃ byte tail, writeItems item closing (value :: values) ++ rest = byte :: tail ∧ byte ≠ closing := by
        cases values with
        | nil =>
          obtain ⟨byte, tail, shape, other⟩ := begins value (closing :: rest)
          exact ⟨byte, tail, by rw [writeItems, append_assoc]; exact shape, by simpa using other⟩
        | cons next values =>
          obtain ⟨byte, tail, shape, other⟩ := begins value (44 :: (writeItems item closing (next :: values) ++ rest))
          exact ⟨byte, tail, by rw [writeItems, append_assoc]; exact shape; simp, by simpa using other⟩
      obtain ⟨byte, tail, shape, other⟩ := nonempty
      have enough : values.length < (writeItems item closing (value :: values) ++ rest).length + 1 := by
        have long := (write_items_length item closing (value :: values)).1
        simp only [length_append, length_cons] at long ⊢
        omega
      have items := read_items item closing apart comma value values _ rest enough
      simp only [cons_append, ne_eq, not_true_eq_false, if_false]
      rw [if_neg, items]
      rw [shape]
      simpa using other

def brackets (item : Format α) (begins : item.Begins (· ≠ 93)) : Format (List α) :=
  item.list 91 93 (by decide) (by decide) begins

def braces {κ : Type} {cmp : κ → κ → Ordering} [TransCmp cmp] [LawfulEqCmp cmp] [DecidableEq κ] (item : Format (κ × β))
    (begins : item.Begins (· ≠ 125)) : Format (ExtTreeMap κ β cmp) :=
  (item.list 123 125 (by decide) (by decide) begins).map
    (fun entries => entries.foldl (fun built entry => built.insert entry.1 entry.2) ∅) (fun map => map.toList) fold_insert_toList

def elements {cmp : α → α → Ordering} [TransCmp cmp] [LawfulEqCmp cmp] [DecidableEq α] (item : Format α)
    (begins : item.Begins (· ≠ 93)) :
    Format (ExtTreeSet α cmp) :=
  (brackets item begins).map (fun items => ExtTreeSet.ofList items cmp) (fun set => set.toList) fun set => by
    apply ExtTreeSet.ext_mem
    intro value
    rw [ExtTreeSet.mem_ofList, contains_iff_mem, ExtTreeSet.mem_toList]

end

theorem begins_with {α : Type} {format : Format α} {byte : UInt8} {accepts : UInt8 → Bool}
    (accepted : accepts byte = true)
    (starts : ∀ value, ∃ tail, format.write value = byte :: tail) : format.Begins accepts := by
  intro value rest
  obtain ⟨tail, shape⟩ := starts value
  exact ⟨byte, tail ++ rest, by rw [shape]; rfl, accepted⟩

theorem number_begins (accepts : UInt8 → Bool) (digits : ∀ byte, asciiDigit byte = true → accepts byte = true) :
    number.Begins accepts := by
  intro value rest
  obtain ⟨byte, tail, shape⟩ := exists_cons_of_ne_nil (decimal_nonempty value)
  refine ⟨byte, tail ++ rest, by rw [show number.write value = decimal value from rfl, shape]; rfl, digits byte ?_⟩
  exact decimal_digits byte (by rw [shape]; exact mem_cons_self)

theorem number_apart : number.Begins (· ≠ 110) := number_begins _ (by decide +kernel)

theorem text_write_length (value : Bytes) : value.length ≤ (text.write value).length := by
  have each : ∀ byte, 1 ≤ (escape byte).length := by decide +kernel
  have whole : value.length ≤ (value.flatMap escape).length := by
    induction value with
    | nil => exact Nat.le_refl _
    | cons byte =>
      have one := each byte
      rw [flatMap_cons, length_append, length_cons]
      omega
  rw [show text.write value = 34 :: (value.flatMap escape ++ [34]) from rfl, length_cons, length_append]
  omega

-- The texts true and false.
def boolJson : Format Bool :=
  (Format.either [116, 114, 117, 101] [102, 97, 108, 115, 101] (fun _ => rfl) unit unit).map (fun value => value.isLeft)
    (fun value => if value then .inl () else .inr ()) (fun value => by cases value <;> rfl)

-- Bytes that serde_json copies as they are.
def plain : Bool := 32 ≤ byte && byte ≠ 34 && byte ≠ 92

theorem escape_plain (isPlain : plain byte = true) : escape byte = [byte] := by
  revert byte
  decide +kernel

theorem text_write_plain (value : Bytes) (isPlain : ∀ byte ∈ value, plain byte = true) :
    text.write value = 34 :: (value ++ [34]) := by
  have same : value.flatMap escape = value := by
    induction value with
    | nil => rfl
    | cons byte _ ih =>
      rw [flatMap_cons, ih (fun other member => isPlain other (mem_cons_of_mem _ member)), escape_plain byte (isPlain byte mem_cons_self)]
      rfl
  rw [show text.write value = 34 :: (value.flatMap escape ++ [34]) from rfl, same]

end Json

structure Serde (α : Type) where
  toVec : α → Bytes
  fromSlice : Bytes → Option α

-- What serde_json promises: a value it wrote reads back as itself.
def Serde.RoundTrips {α : Type} (serde : Serde α) : Prop := ∀ value, serde.fromSlice (serde.toVec value) = some value

def serdeOf {α : Type} (format : Json.Format α) : Serde α := ⟨format.toVec, format.fromSlice⟩

theorem serde_of_round_trips {α : Type} (format : Json.Format α) : (serdeOf format).RoundTrips :=
  format.from_slice_to_vec

end Wire
