import HeptaBao.Algebra.SecretSharing
import HeptaBao.Server.Gf256

namespace HeptaBao.Server

open Wire Durable
open List hiding Vector

def shareMagic : Bytes := str "HBS1"

def shareSecretBytes : Nat := 32

def shareChecksumBytes : Nat := 4

def shareBytes : Nat := shareMagic.length + 3 + shareSecretBytes + shareChecksumBytes

structure SecretShare where
  total : UInt8
  threshold : UInt8
  index : UInt8
  value : Vector UInt8 32
deriving DecidableEq

def validateShareParameters (total threshold : UInt8) : Except Str Unit :=
  if total = 0 ∨ threshold = 0 ∨ threshold > total then .error (str "invalid Shamir share parameters") else .ok ()

section

-- ring's SHA-256.
variable (digest : Bytes → Digest)

def shareChecksum (encodedWithoutChecksum : Bytes) : Digest := digest (str "heptabao.shamir-share.v1\x00" ++ encodedWithoutChecksum)

def SecretShare.encode (share : SecretShare) : Bytes :=
  let encoded := shareMagic ++ [share.total, share.threshold, share.index] ++ share.value.toList
  encoded ++ (shareChecksum digest encoded).bytes.take shareChecksumBytes

def copyFromSlice (bytes : Bytes) : Vector UInt8 32 := Vector.ofFn fun i => bytes.getD i.val 0

def SecretShare.decode (encoded : Bytes) : Except Str SecretShare :=
  if encoded.length ≠ shareBytes ∨ encoded.take shareMagic.length ≠ shareMagic then .error (str "invalid Shamir share format")
  else
    let checksumOffset := shareBytes - shareChecksumBytes
    let expected := shareChecksum digest (encoded.take checksumOffset)
    if encoded.drop checksumOffset ≠ expected.bytes.take shareChecksumBytes then .error (str "invalid Shamir share checksum")
    else
      let total := encoded.getD 4 0
      let threshold := encoded.getD 5 0
      let index := encoded.getD 6 0
      match validateShareParameters total threshold with
      | .error message => .error message
      | .ok () =>
        if index = 0 ∨ index > total then .error (str "invalid Shamir share index")
        else .ok ⟨total, threshold, index, copyFromSlice ((encoded.drop 7).take shareSecretBytes)⟩

end

def shareLoop (x : UInt8) : UInt8 → UInt8 → List UInt8 → UInt8
  | value, _, [] => value
  | value, power, coefficient :: rest => shareLoop x (value ^^^ gfMul coefficient power) (gfMul power x) rest

def shareByte (byteIndex : Fin 32) (secretByte : UInt8) (coeffs : List UInt8) (share : SecretShare) : SecretShare :=
  { share with value := share.value.set byteIndex (shareLoop share.index secretByte share.index coeffs) }

def shareIndices (total : UInt8) : List UInt8 := (range total.toNat).map fun position => UInt8.ofNat (position + 1)

variable (secret : Vector UInt8 32)

-- The random coefficients are drawn once for every byte, and a draw may fail.
def splitByte (threshold : UInt8) (fill : Fin 32 → Option (Vector UInt8 (threshold.toNat - 1)))
    (shares : List SecretShare) (byteIndex : Fin 32) : Except Str (List SecretShare) :=
  match fill byteIndex with
  | none => .error (str "operating system randomness unavailable")
  | some coeffs => .ok (shares.map (shareByte byteIndex (secret.get byteIndex) coeffs.toList))

def splitSecret (total threshold : UInt8)
    (fill : Fin 32 → Option (Vector UInt8 (threshold.toNat - 1))) : Except Str (List SecretShare) := do
  validateShareParameters total threshold
  (finRange 32).foldlM (splitByte secret threshold fill)
    ((shareIndices total).map fun index => ⟨total, threshold, index, Vector.replicate 32 0⟩)

-- The checks on the selected shares, each against those before it.
def checkSelected (first : SecretShare) : List SecretShare → List SecretShare → Except Str Unit
  | _, [] => .ok ()
  | before, share :: rest =>
    if share.total ≠ first.total ∨ share.threshold ≠ first.threshold then .error (str "Shamir share parameter mismatch")
    else if before.any (fun existing => existing.index = share.index) =
      true then .error (str "duplicate Shamir share index")
    else checkSelected first (before ++ [share]) rest

def basisLoop (index : UInt8) (position : Nat) : Nat → List SecretShare → UInt8 → Except Str UInt8
  | _, [], basis => .ok basis
  | otherPosition, other :: rest, basis =>
    if position = otherPosition then basisLoop index position (otherPosition + 1) rest basis
    else if other.index ^^^ index = 0 then .error (str "duplicate Shamir share index")
    else do
      let inverse ← gfInverse (other.index ^^^ index)
      basisLoop index position (otherPosition + 1) rest (gfMul basis (gfMul other.index inverse))

def valueLoop (selected : List SecretShare) (byteIndex : Fin 32) : Nat → List SecretShare → UInt8 → Except Str UInt8
  | _, [], value => .ok value
  | position, share :: rest, value => do
    let basis ← basisLoop share.index position 0 selected 1
    valueLoop selected byteIndex (position + 1) rest (value ^^^ gfMul (share.value.get byteIndex) basis)

def combineByte (selected : List SecretShare) (secret : Vector UInt8 32) (byteIndex : Fin 32) : Except Str (Vector UInt8 32) := do
  let value ← valueLoop selected byteIndex 0 selected 0
  return secret.set byteIndex value

def combineShares (shares : List SecretShare) : Except Str (Vector UInt8 32) :=
  match shares with
  | [] => .error (str "no Shamir shares supplied")
  | first :: _ => do
    validateShareParameters first.total first.threshold
    if shares.length < first.threshold.toNat then .error (str "insufficient Shamir shares")
    else do
      checkSelected first [] (shares.take first.threshold.toNat)
      (finRange 32).foldlM (combineByte (shares.take first.threshold.toNat)) (Vector.replicate 32 0)

theorem validate_share_parameters_ok {total threshold : UInt8} (positive : threshold ≠ 0)
    (bounded : threshold ≤ total) :
    validateShareParameters total threshold = .ok () := by
  have filled : total ≠ 0 := by
    rintro rfl
    exact positive (UInt8.le_zero_iff.mp bounded)
  rw [validateShareParameters, if_neg]
  rintro (wrong | wrong | wrong)
  · exact filled wrong
  · exact positive wrong
  · exact absurd wrong (UInt8.not_lt.mpr bounded)

-- A loop that writes every place of an array once.
theorem set_each (places : List (Fin 32)) (content : Fin 32 → UInt8) (start : Vector UInt8 32) (i : Fin 32) :
    (places.foldl (fun array place => array.set place (content place)) start).get i =
      if i ∈ places then content i else start.get i := by
  induction places generalizing start with
  | nil => simp
  | cons place rest ih =>
    rw [foldl_cons, ih]
    by_cases later : i ∈ rest
    · rw [if_pos later, if_pos (mem_cons_of_mem _ later)]
    · rw [if_neg later]
      by_cases here : i = place
      · subst here
        rw [if_pos mem_cons_self]
        simp [Vector.get_eq_getElem]
      · rw [if_neg (fun listed => (mem_cons.mp listed).elim here later)]
        have apart : (place : Nat) ≠ (i : Nat) := fun same => here (Fin.ext same.symm)
        simp [Vector.get_eq_getElem, apart]

theorem set_all (content : Fin 32 → UInt8) (start : Vector UInt8 32) :
    (finRange 32).foldl (fun array place => array.set place (content place)) start = Vector.ofFn content := by
  apply Vector.ext
  intro i bound
  have written := set_each (finRange 32) content start ⟨i, bound⟩
  rw [if_pos (mem_finRange _)] at written
  simpa [Vector.get_eq_getElem] using written

theorem fold_ok {α β : Type} (step : β → α → Except Str β) (next : β → α → β)
    (succeeds : ∀ state value, step state value = .ok (next state value))
    (values : List α) (start : β) : values.foldlM step start = .ok (values.foldl next start) := by
  induction values generalizing start with
  | nil => rfl
  | cons value _ ih =>
    rw [foldlM_cons, succeeds, foldl_cons]
    exact ih (next start value)

def shareOf (total threshold : UInt8) (coeffs : Fin 32 → Vector UInt8 (threshold.toNat - 1)) (index : UInt8) :
    SecretShare :=
  ⟨total, threshold, index, Vector.ofFn fun i => shareLoop index (secret.get i) index (coeffs i).toList⟩

theorem fold_share_byte (places : List (Fin 32)) (secret : Fin 32 → UInt8) (coeffs : Fin 32 → List UInt8)
    (share : SecretShare) :
    places.foldl (fun share place => shareByte place (secret place) (coeffs place) share) share = { share with
      value := places.foldl (fun array (place : Fin 32) => array.set place (shareLoop share.index (secret place) share.index (coeffs place)))
        share.value } := by
  induction places generalizing share with
  | nil => rfl
  | cons _ _ ih =>
    rw [foldl_cons, ih]
    rfl

theorem fold_map {α β : Type} (change : α → β → β) (places : List α) (values : List β) :
    places.foldl (fun values place => values.map (change place)) values =
      values.map fun value => places.foldl (fun value place => change place value) value := by
  induction places generalizing values with
  | nil => simp
  | cons _ _ ih => simp [ih]

theorem split_secret_ok {total threshold : UInt8} (positive : threshold ≠ 0) (bounded : threshold ≤ total)
    (coeffs : Fin 32 → Vector UInt8 (threshold.toNat - 1)) :
      splitSecret secret total threshold (fun i => some (coeffs i)) =
      .ok ((shareIndices total).map (shareOf secret total threshold coeffs)) := by
  rw [splitSecret, validate_share_parameters_ok positive bounded, ok_bind]
  rw [fold_ok (splitByte secret threshold fun i => some (coeffs i))
    (fun shares place => shares.map (shareByte place (secret.get place) (coeffs place).toList)) (fun _ _ => rfl), fold_map, map_map]
  refine congrArg Except.ok (map_congr_left fun index _ => ?_)
  rw [Function.comp_apply, fold_share_byte, set_all]
  rfl

theorem share_index_bounds {total index : UInt8} (listed : index ∈ shareIndices total) : index ≠ 0 ∧ index ≤ total := by
  obtain ⟨position, inside, rfl⟩ := mem_map.mp listed
  have below := mem_range.mp inside
  have limit : total.toNat < 256 := total.toNat_lt
  have value : (UInt8.ofNat (position + 1)).toNat = position + 1 := by simp; omega
  refine ⟨fun zero => ?_, ?_⟩
  · rw [zero] at value
    cases value
  · rw [UInt8.le_iff_toNat_le, value]
    omega

theorem share_loop_eval (x value power : UInt8) (coeffs : List UInt8) : (⟨shareLoop x value power coeffs⟩ : Gf256) =
    ⟨value⟩ + ⟨power⟩ * (SecretSharing.ofList (coeffs.map Gf256.mk)).eval ⟨x⟩ := by
  induction coeffs generalizing value power with
  | nil => simp [shareLoop, SecretSharing.ofList]
  | cons coefficient _ ih =>
    have added : (⟨value ^^^ gfMul coefficient power⟩ : Gf256) = ⟨value⟩ + ⟨coefficient⟩ * ⟨power⟩ := rfl
    have raised : (⟨gfMul power x⟩ : Gf256) = ⟨power⟩ * ⟨x⟩ := rfl
    rw [shareLoop, ih, added, raised, map_cons, SecretSharing.ofList, Polynomial.eval_add, Polynomial.eval_C, Polynomial.eval_mul, Polynomial.eval_X]
    ring

theorem share_value (total threshold : UInt8) (coeffs : Fin 32 → Vector UInt8 (threshold.toNat - 1))
    (index : UInt8) (i : Fin 32) : (⟨(shareOf secret total threshold coeffs index).value.get i⟩ : Gf256) =
      (SecretSharing.ofList (⟨secret.get i⟩ :: (coeffs i).toList.map Gf256.mk)).eval ⟨index⟩ := by
  have stored : (shareOf secret total threshold coeffs index).value.get i =
      shareLoop index (secret.get i) index (coeffs i).toList := by simp [shareOf, Vector.get_eq_getElem]
  rw [stored, share_loop_eval, SecretSharing.ofList, Polynomial.eval_add, Polynomial.eval_C, Polynomial.eval_mul, Polynomial.eval_X]

theorem check_selected_ok (first : SecretShare) (before rest : List SecretShare)
    (same : ∀ share ∈ rest, share.total = first.total ∧ share.threshold = first.threshold)
    (distinct : ((before ++ rest).map SecretShare.index).Nodup) : checkSelected first before rest = .ok () := by
  induction rest generalizing before with
  | nil => rfl
  | cons share _ ih =>
    obtain ⟨sameTotal, sameThreshold⟩ := same share mem_cons_self
    have fresh : ¬before.any (fun existing => existing.index = share.index) = true := by
      rw [any_eq_true]
      rintro ⟨existing, earlier, equal⟩
      rw [map_append, nodup_append] at distinct
      exact distinct.2.2 existing.index (mem_map_of_mem earlier) share.index (mem_map_of_mem mem_cons_self)
        (of_decide_eq_true equal)
    rw [checkSelected, if_neg (by simp [sameTotal, sameThreshold]), if_neg fresh]
    refine ih (before ++ [share]) (fun other listed => same other (mem_cons_of_mem _ listed)) ?_
    rw [append_assoc]
    exact distinct

def factor (index : UInt8) (position : Nat) (entry : SecretShare × Nat) : Gf256 :=
  if entry.2 = position then 1 else ⟨entry.1.index⟩ * ((⟨entry.1.index⟩ : Gf256) - ⟨index⟩)⁻¹

theorem basis_loop_ok (index : UInt8) (position otherPosition : Nat) (rest : List SecretShare) (basis : UInt8)
    (apart : ∀ entry ∈ rest.zipIdx otherPosition, entry.2 ≠ position → entry.1.index ≠ index) :
      basisLoop index position otherPosition rest basis =
      .ok ((⟨basis⟩ : Gf256) * ((rest.zipIdx otherPosition).map (factor index position)).prod).byte := by
  induction rest generalizing otherPosition basis with
  | nil => simp [basisLoop]
  | cons other _ ih =>
    rw [zipIdx_cons] at apart
    have later := fun entry listed => apart entry (mem_cons_of_mem _ listed)
    rw [zipIdx_cons, map_cons, prod_cons]
    by_cases here : position = otherPosition
    · rw [basisLoop, if_pos here, ih _ _ later, factor, if_pos here.symm, one_mul]
    · have differs : other.index ^^^ index ≠ 0 := by
        intro equal
        exact apart (other, otherPosition) mem_cons_self (Ne.symm here) (UInt8.xor_eq_zero_iff.mp equal)
      have taken : factor index position (other, otherPosition) = ⟨other.index⟩ * (⟨other.index ^^^ index⟩ : Gf256)⁻¹ := if_neg (Ne.symm here)
      rw [basisLoop, if_neg here, if_neg differs, gf_inverse_eq _ differs, taken, ← mul_assoc]
      exact ih _ _ later

theorem value_loop_ok (selected : List SecretShare) (byteIndex : Fin 32) (weights : Nat → Gf256) (position : Nat)
    (rest : List SecretShare)
    (value : UInt8) (computes : ∀ entry ∈ rest.zipIdx position, basisLoop entry.1.index entry.2 0 selected 1 =
      .ok (weights entry.2).byte) :
    valueLoop selected byteIndex position rest value = .ok ((⟨value⟩ : Gf256) +
      ((rest.zipIdx position).map fun entry => (⟨entry.1.value.get byteIndex⟩ : Gf256) * weights
        entry.2).sum).byte := by
  induction rest generalizing position value with
  | nil => simp [valueLoop]
  | cons share _ ih =>
    rw [zipIdx_cons] at computes
    rw [valueLoop, computes (share, position) mem_cons_self, zipIdx_cons, map_cons, sum_cons, ← add_assoc]
    exact ih _ _ fun entry listed => computes entry (mem_cons_of_mem _ listed)

end HeptaBao.Server
