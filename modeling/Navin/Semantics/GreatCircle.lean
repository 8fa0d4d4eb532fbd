import Mathlib.Analysis.InnerProductSpace.PiL2
import Mathlib.Analysis.SpecialFunctions.Complex.Arg
import Mathlib.Geometry.Euclidean.Angle.Unoriented.Basic

/-! Angles between two directions that are given by latitude and longitude, in radians of
any size, and the haversine formula for them. -/
namespace GreatCircle

open Real InnerProductGeometry
open scoped RealInnerProductSpace

instance two_atLeastTwo : Nat.AtLeastTwo 2 := ⟨le_rfl⟩

/-- The unit vector of a latitude and a longitude. -/
noncomputable def direction (latitude longitude : ℝ) : EuclideanSpace ℝ (Fin 3) :=
  WithLp.toLp 2 ![cos latitude * cos longitude, cos latitude * sin longitude, sin latitude]

theorem inner_direction (φ l φ' l' : ℝ) :
    ⟪direction φ l, direction φ' l'⟫ = cos φ * cos φ' * cos (l' - l) + sin φ * sin φ' := by
  rw [direction, direction, PiLp.inner_apply, Fin.sum_univ_three, cos_sub]
  simp only [RCLike.inner_apply, conj_trivial, Matrix.cons_val_zero, Matrix.cons_val_one,
    Matrix.cons_val]
  ring

theorem norm_direction (φ l : ℝ) : ‖direction φ l‖ = 1 := by
  have hSquare : ‖direction φ l‖ ^ 2 = 1 := by
    rw [← real_inner_self_eq_norm_sq, inner_direction, sub_self, cos_zero]
    nlinarith only [sin_sq_add_cos_sq φ]
  exact (pow_eq_one_iff_of_nonneg (norm_nonneg _) two_ne_zero).mp hSquare

/-- The haversine formula. -/
noncomputable def haversine (φ l φ' l' : ℝ) : ℝ :=
  sin ((φ' - φ) / 2) * sin ((φ' - φ) / 2) +
    cos φ * cos φ' * sin ((l' - l) / 2) * sin ((l' - l) / 2)

theorem sin_half_mul_self (x : ℝ) : sin (x / 2) * sin (x / 2) = (1 - cos x) / 2 := by
  have hDouble := cos_two_mul (x / 2)
  rw [mul_div_cancel₀ x two_ne_zero] at hDouble
  nlinarith only [hDouble, sin_sq_add_cos_sq (x / 2)]

variable (φ l φ' l' : ℝ)

/-- The formula is a function of the angle between the directions. -/
theorem haversine_eq :
    haversine φ l φ' l' = (1 - cos (angle (direction φ l) (direction φ' l'))) / 2 := by
  have hCos : cos (angle (direction φ l) (direction φ' l')) =
      cos φ * cos φ' * cos (l' - l) + sin φ * sin φ' := by
    rw [cos_angle, norm_direction, norm_direction, mul_one, div_one, inner_direction]
  rw [haversine, mul_assoc (cos φ * cos φ'), sin_half_mul_self, sin_half_mul_self, hCos,
    cos_sub φ' φ]
  ring

theorem haversine_eq_sin_sq :
    haversine φ l φ' l' = sin (angle (direction φ l) (direction φ' l') / 2) ^ 2 := by
  rw [haversine_eq, sq, sin_half_mul_self]

theorem one_sub_haversine :
    1 - haversine φ l φ' l' = cos (angle (direction φ l) (direction φ' l') / 2) ^ 2 := by
  rw [haversine_eq_sin_sq, ← cos_sq']

theorem haversine_nonneg : 0 ≤ haversine φ l φ' l' := by
  rw [haversine_eq_sin_sq]
  exact sq_nonneg _

theorem haversine_le_one : haversine φ l φ' l' ≤ 1 := by
  rw [← sub_nonneg, one_sub_haversine]
  exact sq_nonneg _

/-- The angle is recovered from the square roots of the formula and of its complement. -/
theorem two_mul_arg_sqrt_haversine :
    2 * Complex.arg ⟨√(1 - haversine φ l φ' l'), √(haversine φ l φ' l')⟩ =
      angle (direction φ l) (direction φ' l') := by
  have hNonneg := angle_nonneg (direction φ l) (direction φ' l')
  have hLe := angle_le_pi (direction φ l) (direction φ' l')
  rw [one_sub_haversine, haversine_eq_sin_sq]
  generalize angle (direction φ l) (direction φ' l') = θ at hNonneg hLe
  have hCos : 0 ≤ cos (θ / 2) := cos_nonneg_of_mem_Icc ⟨by linarith [pi_pos], by linarith⟩
  have hSin : 0 ≤ sin (θ / 2) := sin_nonneg_of_mem_Icc ⟨by linarith, by linarith [pi_pos]⟩
  have hPolar : (⟨cos (θ / 2), sin (θ / 2)⟩ : ℂ) =
      Complex.cos (θ / 2 : ℝ) + Complex.sin (θ / 2 : ℝ) * Complex.I := by
    rw [← Complex.ofReal_cos, ← Complex.ofReal_sin]
    exact Complex.mk_eq_add_mul_I _ _
  rw [sqrt_sq hCos, sqrt_sq hSin, hPolar,
    Complex.arg_cos_add_sin_mul_I ⟨by linarith [pi_pos], by linarith [pi_pos]⟩]
  ring

end GreatCircle
