import HeptaBao.Server.Reconstruction

namespace HeptaBao.Server

open Wire Durable SecretSharing
open List hiding Vector

def observe (total threshold : UInt8) (observed : Finset UInt8) (secret : Vector UInt8 32)
    (coeffs : Fin 32 → Vector UInt8 (threshold.toNat - 1)) : Except Str (List SecretShare) :=
  (splitSecret secret total threshold fun i => some (coeffs i)).map (List.filter fun share => share.index ∈ observed)

section

variable (total threshold : UInt8) (observed : Finset UInt8) (secret other : Vector UInt8 32)

noncomputable def maskBytes (i : Fin 32) : Vector UInt8 (threshold.toNat - 1) :=
  Vector.ofFn fun k => ((mask (observed.image Gf256.mk) (threshold.toNat - 1) ((⟨other.get i⟩ : Gf256) - ⟨secret.get i⟩)).getD k.val 0).byte

theorem mask_bytes_list (i : Fin 32) : (maskBytes threshold observed secret other i).toList.map Gf256.mk =
    mask (observed.image Gf256.mk) (threshold.toNat - 1) ((⟨other.get i⟩ : Gf256) - ⟨secret.get i⟩) := by
  apply ext_getElem
  · simp [mask_length]
  · intro k first second
    simp [maskBytes, getD_eq_getElem?_getD, second]

noncomputable def relabel (coeffs : Fin 32 → Vector UInt8 (threshold.toNat - 1)) (i : Fin 32) : Vector UInt8 (threshold.toNat - 1) :=
  Vector.zipWith (· ^^^ ·) (coeffs i) (maskBytes threshold observed secret other i)

theorem relabel_involutive : Function.Involutive (relabel threshold observed secret other) := by
  intro coeffs
  funext i
  apply Vector.ext
  intro k inside
  simp [relabel]

theorem relabel_list (coeffs : Fin 32 → Vector UInt8 (threshold.toNat - 1)) (i : Fin 32) :
    (relabel threshold observed secret other coeffs i).toList.map Gf256.mk = zipWith (· + ·)
    ((coeffs i).toList.map Gf256.mk)
        (mask (observed.image Gf256.mk) (threshold.toNat - 1) ((⟨other.get i⟩ : Gf256) - ⟨secret.get i⟩)) := by
  rw [← mask_bytes_list, relabel, Vector.toList_zipWith, map_zipWith, zipWith_map]
  rfl

variable (indices : ∀ index ∈ observed, 1 ≤ index ∧ index ≤ total) (few : observed.card ≤ threshold.toNat - 1)

include indices few

theorem share_unchanged (coeffs : Fin 32 → Vector UInt8 (threshold.toNat - 1)) (index : UInt8)
    (seen : index ∈ observed) :
    shareOf secret total threshold coeffs index = shareOf other total threshold
      (relabel threshold observed secret other coeffs) index := by
  have nonzero : (0 : Gf256) ∉ observed.image Gf256.mk := by
    intro listed
    obtain ⟨zero, isSeen, same⟩ := Finset.mem_image.mp listed
    have isZero : zero = 0 := congrArg Gf256.byte same
    exact absurd (indices zero isSeen).1 (by rw [isZero]; decide)
  have size : ∀ i, ((coeffs i).toList.map Gf256.mk).length = threshold.toNat - 1 := by simp
  have values : ∀ i : Fin 32, (shareOf secret total threshold coeffs index).value.get i =
      (shareOf other total threshold (relabel threshold observed secret other coeffs) index).value.get i := by
    intro i
    have masked := masked_share (observed.image Gf256.mk) nonzero ⟨secret.get i⟩ ⟨other.get i⟩ ((coeffs i).toList.map Gf256.mk)
      (by rw [size]; exact Finset.card_image_le.trans few) ⟨index⟩ (Finset.mem_image_of_mem _ seen)
    rw [size, ← relabel_list, ← share_value, ← share_value] at masked
    exact (congrArg Gf256.byte masked).symm
  have same : (shareOf secret total threshold coeffs index).value =
      (shareOf other total threshold (relabel threshold observed secret other coeffs) index).value := by
    apply Vector.ext
    intro i inside
    exact values ⟨i, inside⟩
  exact congrArg (SecretShare.mk total threshold index) same

theorem observe_unchanged (positive : threshold ≠ 0) (bounded : threshold ≤ total)
    (coeffs : Fin 32 → Vector UInt8 (threshold.toNat - 1)) : ∃ seen, observe total threshold observed secret coeffs =
      .ok seen ∧
      observe total threshold observed other (relabel threshold observed secret other coeffs) = .ok seen := by
  refine ⟨((shareIndices total).map (shareOf secret total threshold coeffs)).filter fun share => share.index ∈ observed, ?_, ?_⟩
  · rw [observe, split_secret_ok secret positive bounded]
    rfl
  · rw [observe, split_secret_ok other positive bounded]
    refine congrArg Except.ok ?_
    rw [filter_map, filter_map]
    refine map_congr_left fun index listed => ?_
    have seen : index ∈ observed := of_decide_eq_true (mem_filter.mp listed).2
    exact (share_unchanged total threshold observed secret other indices few coeffs index seen).symm

end

/-- A permutation of the coefficients exchanges two secrets with the same shares. -/
theorem shamir_hides (total threshold : UInt8) (positive : 1 ≤ threshold) (bounded : threshold ≤ total)
    (observed : Finset UInt8)
    (indices : ∀ index ∈ observed, 1 ≤ index ∧ index ≤ total) (few : observed.card ≤ threshold.toNat - 1)
    (secret other : Vector UInt8 32) :
    (∃ exchange : Equiv.Perm (Fin 32 → Vector UInt8 (threshold.toNat - 1)), ∀ coeffs,
      ∃ seen, observe total threshold observed secret coeffs = .ok seen ∧
        observe total threshold observed other (exchange coeffs) = .ok seen) ∧
    ∀ seen, Nat.card { coeffs // observe total threshold observed secret coeffs = .ok seen } =
      Nat.card { coeffs // observe total threshold observed other coeffs = .ok seen } := by
  have nonzero : threshold ≠ 0 := by
    rintro rfl
    exact absurd positive (by decide)
  have same := observe_unchanged total threshold observed secret other indices few nonzero bounded
  refine ⟨⟨(relabel_involutive threshold observed secret other).toPerm, same⟩, fun seen => ?_⟩
  refine Nat.card_congr ((relabel_involutive threshold observed secret other).toPerm.subtypeEquiv fun coeffs => ?_)
  obtain ⟨_, one, two⟩ := same coeffs
  change _ ↔ observe total threshold observed other (relabel threshold observed secret other coeffs) = _
  rw [one, two]

theorem shamir_hides_one_of_two : ∃ exchange : Equiv.Perm (Fin 32 → Vector UInt8 1), ∀ coeffs,
    ∃ seen, observe 3 2 {1} (Vector.replicate 32 0x5a) coeffs = .ok seen ∧
      observe 3 2 {1} (Vector.replicate 32 0xa5) (exchange coeffs) = .ok seen := by
  have indices : ∀ index ∈ ({1} : Finset UInt8), 1 ≤ index ∧ index ≤ 3 := by
    intro index listed
    rw [Finset.mem_singleton.mp listed]
    decide
  exact (shamir_hides 3 2 (by decide) (by decide) {1} indices (by simp) (Vector.replicate 32 0x5a) (Vector.replicate 32 0xa5)).1

end HeptaBao.Server
