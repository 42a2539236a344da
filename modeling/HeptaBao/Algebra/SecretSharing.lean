import Mathlib.LinearAlgebra.Lagrange

-- A secret is the constant term of a polynomial, a share its value at a nonzero point.
namespace SecretSharing

open Polynomial List

variable {F : Type*} [Field F]

noncomputable def ofList : List F → F[X]
  | [] => 0
  | first :: rest => C first + X * ofList rest

theorem coeff_of_list (coeffs : List F) (k : Nat) : (ofList coeffs).coeff k = coeffs.getD k 0 := by
  induction coeffs generalizing k with
  | nil => simp [ofList]
  | cons _ _ ih =>
    cases k with
    | zero => simp [ofList]
    | succ => simp [ofList, ih, coeff_C_succ]

theorem of_list_degree (coeffs : List F) : (ofList coeffs).degree < coeffs.length := by
  rw [degree_lt_iff_coeff_zero]
  intro k beyond
  rw [coeff_of_list, getD_eq_getElem?_getD, getElem?_eq_none beyond]
  rfl

theorem of_list_add (left right : List F) (sameLength : left.length = right.length) :
    ofList (zipWith (· + ·) left right) = ofList left + ofList right := by
  induction left generalizing right with
  | nil =>
    cases right with
    | nil => simp [ofList]
    | cons => cases sameLength
  | cons _ _ ih =>
    cases right with
    | nil => cases sameLength
    | cons _ others =>
      have tails := ih others (Nat.succ.inj sameLength)
      simp only [zipWith_cons_cons, ofList, tails, C_add]
      ring

theorem of_list_coeff (polynomial : F[X]) (count : Nat) (small : polynomial.degree < count) :
    ofList ((range count).map polynomial.coeff) = polynomial := by
  ext k
  rw [coeff_of_list]
  by_cases inside : k < count
  · simp [getD_eq_getElem?_getD, inside]
  · rw [getD_eq_getElem?_getD, getElem?_eq_none (by simpa using Nat.not_lt.mp inside)]
    exact ((degree_lt_iff_coeff_zero _ _).mp small k (Nat.not_lt.mp inside)).symm

def weight {count : Nat} (nodes : Fin count → F) (i : Fin count) : F :=
  ∏ j ∈ Finset.univ.erase i, nodes j * (nodes j - nodes i)⁻¹

theorem basis_at_zero {count : Nat} (nodes : Fin count → F) (i : Fin count) :
    (Lagrange.basis Finset.univ nodes i).eval 0 = weight nodes i := by
  rw [Lagrange.basis, eval_prod, weight]
  refine Finset.prod_congr rfl fun j _ => ?_
  rw [Lagrange.basisDivisor, eval_mul, eval_C, eval_sub, eval_X, eval_C, zero_sub, ← neg_sub, inv_neg, neg_mul_neg, mul_comm]

theorem reconstruct {count : Nat} (secret : F) {coeffs : List F} (enough : coeffs.length < count)
    (nodes : Fin count → F)
    (distinct : Function.Injective nodes) : ∑ i, (ofList (secret :: coeffs)).eval (nodes i) * weight nodes i =
      secret := by
  have small : (ofList (secret :: coeffs)).degree < (Finset.univ : Finset (Fin count)).card := by
    rw [Finset.card_univ, Fintype.card_fin]
    exact (of_list_degree (secret :: coeffs)).trans_le (by exact_mod_cast enough)
  have interpolated := Lagrange.eq_interpolate_of_eval_eq (fun i => (ofList (secret :: coeffs)).eval (nodes i)) distinct.injOn small
    fun i _ => rfl
  have constant : (ofList (secret :: coeffs)).eval 0 = secret := by simp [ofList]
  rw [← constant]
  nth_rewrite 2 [interpolated]
  rw [Lagrange.interpolate_apply, eval_finsetSum]
  refine Finset.sum_congr rfl fun i _ => ?_
  rw [eval_mul, eval_C, basis_at_zero, constant]

-- The polynomial that vanishes at the observed points and is one at zero.
noncomputable def blinder (observed : Finset F) : F[X] := ∏ x ∈ observed, (1 - C x⁻¹ * X)

theorem blinder_vanishes (observed : Finset F) (nonzero : 0 ∉ observed) (x : F) (seen : x ∈ observed) :
    (blinder observed).eval x = 0 := by
  rw [blinder, eval_prod]
  refine Finset.prod_eq_zero seen ?_
  have proper : x ≠ 0 := fun zero => nonzero (zero ▸ seen)
  rw [eval_sub, eval_one, eval_mul, eval_C, eval_X, inv_mul_cancel₀ proper, sub_self]

theorem blinder_at_zero (observed : Finset F) : (blinder observed).coeff 0 = 1 := by
  rw [coeff_zero_eq_eval_zero, blinder, eval_prod]
  exact Finset.prod_eq_one fun x _ => by simp

theorem blinder_degree (observed : Finset F) : (blinder observed).degree ≤ observed.card := by
  rw [blinder]
  refine (degree_prod_le _ _).trans ?_
  refine (Finset.sum_le_card_nsmul _ _ 1 fun x _ => ?_).trans (by simp)
  exact (degree_sub_le _ _).trans (max_le (by simp) (degree_C_mul_X_le _))

-- Hides a change of the secret from the observed points.
noncomputable def mask (observed : Finset F) (count : Nat) (difference : F) : List F :=
  (range count).map fun k => (C difference * blinder observed).coeff (k + 1)

theorem mask_length (observed : Finset F) (count : Nat) (difference : F) : (mask observed count difference).length =
    count := by
  simp [mask]

theorem mask_hides {observed : Finset F} (nonzero : 0 ∉ observed) {count : Nat} (few : observed.card ≤ count)
    (difference : F) {x : F}
    (seen : x ∈ observed) : (ofList (difference :: mask observed count difference)).eval x = 0 := by
  have small : (C difference * blinder observed).degree < (count + 1 : Nat) := by
    refine lt_of_le_of_lt (degree_mul_le _ _) ?_
    have low : (C difference).degree + (blinder observed).degree ≤ 0 + (observed.card : WithBot Nat) :=
      add_le_add degree_C_le (blinder_degree observed)
    refine lt_of_le_of_lt low ?_
    rw [zero_add]
    exact_mod_cast Nat.lt_succ_of_le few
  have listed : (range (count + 1)).map (C difference * blinder observed).coeff = difference :: mask observed count difference := by
    rw [range_succ_eq_map, map_cons, map_map]
    refine congrArg₂ List.cons ?_ rfl
    rw [coeff_C_mul, blinder_at_zero, mul_one]
  rw [← listed, of_list_coeff _ _ small, eval_mul, blinder_vanishes observed nonzero x seen, mul_zero]

theorem masked_share (observed : Finset F) (nonzero : 0 ∉ observed) (secret other : F) (coeffs : List F)
    (few : observed.card ≤ coeffs.length) (x : F) (seen : x ∈ observed) :
    (ofList (other :: zipWith (· + ·) coeffs (mask observed coeffs.length (other - secret)))).eval x =
      (ofList (secret :: coeffs)).eval x := by
  have split : other :: zipWith (· + ·) coeffs (mask observed coeffs.length (other - secret)) =
      zipWith (· + ·) (secret :: coeffs) ((other - secret) :: mask observed coeffs.length (other - secret)) := by
    rw [zipWith_cons_cons, add_sub_cancel]
  rw [split, of_list_add _ _ (by simp [mask_length]), eval_add, mask_hides nonzero few (other - secret) seen, add_zero]

end SecretSharing
