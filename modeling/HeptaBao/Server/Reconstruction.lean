import HeptaBao.Hash.Digests
import HeptaBao.Server.Shamir

namespace HeptaBao.Server

open Wire Durable SecretSharing
open List hiding Vector

theorem zip_idx_map {α β : Type} (values : List α) (change : α × Nat → β) :
    values.zipIdx.map change = List.ofFn fun k : Fin values.length => change (values.get k, k.val) := by
  apply ext_getElem
  · simp
  · intro k first second
    simp

theorem mem_zip_idx {α : Type} {values : List α} {entry : α × Nat} (listed : entry ∈ values.zipIdx) :
    ∃ k : Fin values.length, entry = (values.get k, k.val) := by
  obtain ⟨_, place⟩ := entry
  obtain ⟨bound, found⟩ := mem_zipIdx' listed
  exact ⟨⟨place, bound⟩, by rw [found]; rfl⟩

section

variable (selected : List SecretShare) (distinct : (selected.map SecretShare.index).Nodup)

def nodes (k : Fin selected.length) : Gf256 := ⟨(selected.get k).index⟩

def weightAt (place : Nat) : Gf256 := if inside : place < selected.length then weight (nodes selected) ⟨place, inside⟩ else 0

include distinct

theorem nodes_injective : Function.Injective (nodes selected) := by
  intro first second same
  have equal : (selected.map SecretShare.index).get (first.cast (length_map _).symm) =
      (selected.map SecretShare.index).get (second.cast (length_map _).symm) := by
    simpa [nodes] using same
  have places := (nodup_iff_injective_get.mp distinct) equal
  exact Fin.ext (by simpa using congrArg Fin.val places)

theorem basis_loop_weight (k : Fin selected.length) : basisLoop (selected.get k).index k.val 0 selected 1 =
    .ok (weight (nodes selected) k).byte := by
  have apart : ∀ entry ∈ selected.zipIdx 0, entry.2 ≠ k.val → entry.1.index ≠ (selected.get k).index := by
    intro entry listed elsewhere same
    obtain ⟨j, rfl⟩ := mem_zip_idx listed
    exact elsewhere (congrArg Fin.val (nodes_injective selected distinct (congrArg Gf256.mk same)))
  have product : ((selected.zipIdx 0).map (factor (selected.get k).index k.val)).prod = weight (nodes selected) k := by
    rw [zip_idx_map, prod_ofFn, weight]
    have itself : factor (selected.get k).index k.val (selected.get k, k.val) = 1 := if_pos rfl
    refine (Finset.prod_erase Finset.univ (f := fun j => factor (selected.get k).index k.val (selected.get j, j.val)) itself).symm.trans ?_
    refine Finset.prod_congr rfl fun j listed => ?_
    exact if_neg fun same => (Finset.ne_of_mem_erase listed) (Fin.ext same)
  rw [basis_loop_ok _ _ _ _ _ apart, product, show (⟨1⟩ : Gf256) = 1 from rfl, one_mul]

theorem value_loop_secret (byteIndex : Fin 32) (secret : Gf256) (coeffs : List Gf256)
    (enough : coeffs.length < selected.length)
    (shared : ∀ share ∈ selected, (⟨share.value.get byteIndex⟩ : Gf256) = (ofList (secret :: coeffs)).eval
      ⟨share.index⟩) :
    valueLoop selected byteIndex 0 selected 0 = .ok secret.byte := by
  have computes : ∀ entry ∈ selected.zipIdx 0, basisLoop entry.1.index entry.2 0 selected 1 = .ok (weightAt selected entry.2).byte := by
    intro entry listed
    obtain ⟨k, rfl⟩ := mem_zip_idx listed
    rw [basis_loop_weight selected distinct k, weightAt, dif_pos k.isLt]
  rw [value_loop_ok selected byteIndex (weightAt selected) 0 selected 0 computes, show (⟨0⟩ : Gf256) = 0 from rfl, zero_add, zip_idx_map, sum_ofFn]
  refine congrArg (fun value : Gf256 => Except.ok value.byte) ?_
  rw [← reconstruct secret enough (nodes selected) (nodes_injective selected distinct)]
  refine Finset.sum_congr rfl fun k _ => ?_
  rw [shared (selected.get k) (get_mem selected k)]
  rw [weightAt, dif_pos k.isLt]
  rfl

end

theorem combine_selected (secret : Vector UInt8 32) {total threshold : UInt8} (positive : threshold ≠ 0)
    (bounded : threshold ≤ total)
    (coeffs : Fin 32 → Vector UInt8 (threshold.toNat - 1)) (chosen : List SecretShare)
    (enough : threshold.toNat ≤ chosen.length)
    (shares : ∀ share ∈ chosen.take threshold.toNat, share = shareOf secret total threshold coeffs share.index)
    (distinct : ((chosen.take threshold.toNat).map SecretShare.index).Nodup) : combineShares chosen = .ok secret := by
  have some' : 0 < threshold.toNat := Nat.pos_of_ne_zero fun zero => positive (UInt8.toNat_inj.mp zero)
  have size : (chosen.take threshold.toNat).length = threshold.toNat := by rw [length_take]; omega
  cases chosen with
  | nil => exact absurd enough (Nat.not_le.mpr some')
  | cons first rest =>
    have isFirst : first ∈ (first :: rest).take threshold.toNat := by
      obtain ⟨_, same⟩ := Nat.exists_eq_succ_of_ne_zero some'.ne'
      rw [same, take_succ_cons]
      exact mem_cons_self
    have firstTotal : first.total = total := by rw [shares first isFirst]; rfl
    have firstThreshold : first.threshold = threshold := by rw [shares first isFirst]; rfl
    have same : ∀ share ∈ (first :: rest).take threshold.toNat, share.total = first.total ∧ share.threshold = first.threshold := by
      intro share listed
      rw [firstTotal, firstThreshold, shares share listed]
      exact ⟨rfl, rfl⟩
    have bytes : ∀ i : Fin 32, valueLoop ((first :: rest).take threshold.toNat) i 0 ((first :: rest).take threshold.toNat) 0 =
        .ok (secret.get i) := by
      intro i
      refine value_loop_secret _ distinct i ⟨secret.get i⟩ ((coeffs i).toList.map Gf256.mk) ?_ fun share listed => ?_
      · rw [size, length_map, Vector.length_toList]
        omega
      · have value := share_value secret total threshold coeffs share.index i
        rwa [← shares share listed] at value
    have each : ∀ (array : Vector UInt8 32) (i : Fin 32),
        combineByte ((first :: rest).take threshold.toNat) array i = .ok (array.set i (secret.get i)) := by
      intro array i
      rw [combineByte, bytes i]
      rfl
    rw [combineShares, firstTotal, firstThreshold, validate_share_parameters_ok positive bounded, ok_bind,
      if_neg (Nat.not_lt.mpr enough), check_selected_ok first [] _ same distinct, ok_bind,
      fold_ok _ (fun array (i : Fin 32) => array.set i (secret.get i)) each, set_all]
    refine congrArg Except.ok (Vector.ext fun i inside => ?_)
    simp [Vector.get_eq_getElem]

section

variable (digest : Bytes → Digest)

theorem copy_from_list (value : Vector UInt8 32) : copyFromSlice value.toList = value := by
  apply Vector.ext
  intro i inside
  simp [copyFromSlice, getD_eq_getElem?_getD]

theorem decode_encode_share (share : SecretShare)
    (parameters : validateShareParameters share.total share.threshold = .ok ())
    (index : share.index ≠ 0 ∧ share.index ≤ share.total) : SecretShare.decode digest (share.encode digest) =
      .ok share := by
  have valueLength : share.value.toList.length = 32 := Vector.length_toList
  have checksum : ∀ bytes, ((shareChecksum digest bytes).bytes.take shareChecksumBytes).length = 4 := by
    intro bytes
    rw [length_take, (shareChecksum digest bytes).size]
    rfl
  generalize payload : shareMagic ++ [share.total, share.threshold, share.index] ++ share.value.toList = encoded
  have encodedLength : encoded.length = 39 := by
    rw [← payload]
    simp [valueLength, shareMagic, str]
  have written : share.encode digest = encoded ++ (shareChecksum digest encoded).bytes.take shareChecksumBytes := by
    rw [SecretShare.encode, ← payload]
  have kept : (share.encode digest).take 39 = encoded := by
    rw [written, ← encodedLength, take_left]
  have rest : (share.encode digest).drop 39 = (shareChecksum digest encoded).bytes.take shareChecksumBytes := by
    rw [written, ← encodedLength, drop_left]
  have length : (share.encode digest).length = shareBytes := by
    rw [written, length_append, encodedLength, checksum]
    decide
  have layout : share.encode digest = shareMagic ++ ([share.total, share.threshold, share.index] ++ (share.value.toList ++
      (shareChecksum digest encoded).bytes.take shareChecksumBytes)) := by
    rw [written, ← payload]
    simp only [append_assoc]
  have offset : shareBytes - shareChecksumBytes = 39 := by decide
  rw [SecretShare.decode, if_neg]
  · simp only [offset, kept, rest]
    rw [if_neg (fun wrong => wrong rfl)]
    have fields : (share.encode digest).getD 4 0 = share.total ∧ (share.encode digest).getD 5 0 = share.threshold ∧
        (share.encode digest).getD 6 0 = share.index := by
      rw [layout]
      exact ⟨rfl, rfl, rfl⟩
    have value : ((share.encode digest).drop 7).take shareSecretBytes = share.value.toList := by
      rw [layout]
      change (share.value.toList ++ _).take shareSecretBytes = share.value.toList
      rw [show shareSecretBytes = share.value.toList.length from valueLength.symm, take_left]
    rw [fields.1, fields.2.1, fields.2.2, parameters, value, copy_from_list]
    exact if_neg fun wrong => wrong.elim index.1 fun above => absurd above (UInt8.not_lt.mpr index.2)
  · rintro (wrong | wrong)
    · exact wrong length
    · rw [layout, take_left] at wrong
      exact wrong rfl

/-- Enough distinct shares give the secret back. -/
theorem shamir_reconstructs (secret : Vector UInt8 32) (total threshold : UInt8) (positive : 1 ≤ threshold)
    (bounded : threshold ≤ total)
    (coeffs : Fin 32 → Vector UInt8 (threshold.toNat - 1)) : ∃ shares, splitSecret secret total threshold
      (fun i => some (coeffs i)) = .ok shares ∧
      shares.map SecretShare.index = shareIndices total ∧
      (∀ chosen : List SecretShare, threshold.toNat ≤ chosen.length →
        (∀ share ∈ chosen.take threshold.toNat, share ∈ shares) →
        ((chosen.take threshold.toNat).map SecretShare.index).Nodup → combineShares chosen = .ok secret) ∧
      ∀ share ∈ shares, SecretShare.decode digest (share.encode digest) = .ok share := by
  have nonzero : threshold ≠ 0 := by
    rintro rfl
    exact absurd positive (by decide)
  refine ⟨_, split_secret_ok secret nonzero bounded coeffs, ?_, fun chosen enough listed distinct => ?_, fun share listed => ?_⟩
  · rw [map_map]
    exact map_id _
  · refine combine_selected secret nonzero bounded coeffs chosen enough (fun share member => ?_) distinct
    obtain ⟨index, _, rfl⟩ := mem_map.mp (listed share member)
    rfl
  · obtain ⟨index, member, rfl⟩ := mem_map.mp listed
    exact decode_encode_share digest _ (validate_share_parameters_ok nonzero bounded) (share_index_bounds member)

end

-- The split of the source's own test.
theorem shamir_reconstructs_three_of_five : ∃ shares, splitSecret (Vector.replicate 32 0x5a) 5 3
    (fun _ => some (Vector.replicate 2 7)) = .ok shares ∧
      shares.map SecretShare.index = [1, 2, 3, 4, 5] ∧
        (∀ chosen : List SecretShare, 3 ≤ chosen.length → (∀ share ∈ chosen.take 3, share ∈ shares) →
        ((chosen.take 3).map SecretShare.index).Nodup → combineShares chosen = .ok (Vector.replicate 32 0x5a)) ∧
      ∀ share ∈ shares, SecretShare.decode sha256Digest
        (share.encode sha256Digest) = .ok share :=
  shamir_reconstructs _ (Vector.replicate 32 0x5a) 5 3 (by decide) (by decide) fun _ => Vector.replicate 2 7

end HeptaBao.Server
