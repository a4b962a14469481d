import Mathlib.Analysis.SpecialFunctions.Complex.Arg

/-! A linkage of two links in the plane of complex numbers: where its tip is, and the angle of the
first link by which the tip gets to a given point. -/
namespace PlanarLinkage
open Complex (I arg exp normSq)

variable (a d lift bend : ℝ)

/-- The tip when the first link lies on the real axis and the second is bent against it. -/
noncomputable def reach : ℂ := a+d*exp (bend*I)

/-- The tip when the first link is lifted from the real axis. -/
noncomputable def tip : ℂ := exp (lift*I)*reach a d bend

theorem reach_re : (reach a d bend).re = a+d*Real.cos bend := by
  simp [reach, Complex.exp_ofReal_mul_I_re]

theorem reach_im : (reach a d bend).im = d*Real.sin bend := by
  simp [reach, Complex.exp_ofReal_mul_I_im]

theorem normSq_reach : normSq (reach a d bend) = a^2+d^2+2*a*d*Real.cos bend := by
  rw [Complex.normSq_apply, reach_re, reach_im]
  have hsquares := Real.sin_sq_add_cos_sq bend
  linear_combination d^2*hsquares

theorem tip_re : (tip a d lift bend).re = a*Real.cos lift+d*Real.cos (lift+bend) := by
  rw [tip, Complex.mul_re, reach_re, reach_im, Complex.exp_ofReal_mul_I_re,
    Complex.exp_ofReal_mul_I_im, Real.cos_add]
  ring

theorem tip_im : (tip a d lift bend).im = a*Real.sin lift+d*Real.sin (lift+bend) := by
  rw [tip, Complex.mul_im, reach_re, reach_im, Complex.exp_ofReal_mul_I_re,
    Complex.exp_ofReal_mul_I_im, Real.sin_add]
  ring

theorem norm_tip : ‖tip a d lift bend‖ = ‖reach a d bend‖ := by
  rw [tip, norm_mul, Complex.norm_exp_ofReal_mul_I, one_mul]

/-- The tip in polar form. -/
theorem tip_polar :
    tip a d lift bend = ‖reach a d bend‖*exp ((lift+arg (reach a d bend) : ℝ)*I) := by
  have hreach := Complex.norm_mul_exp_arg_mul_I (reach a d bend)
  calc
    tip a d lift bend = exp (lift*I)*(‖reach a d bend‖*exp (arg (reach a d bend)*I)) := by
      rw [hreach, tip]
    _ = ‖reach a d bend‖*exp ((lift+arg (reach a d bend) : ℝ)*I) := by
      rw [Complex.ofReal_add, add_mul, Complex.exp_add]
      ring

/-- With the right bend, the difference of the two arguments lifts the tip to the point. -/
theorem tip_of_norm_eq (z : ℂ) (h : ‖reach a d bend‖ = ‖z‖) :
    tip a d (arg z-arg (reach a d bend)) bend = z := by
  rw [tip_polar, sub_add_cancel, h, Complex.norm_mul_exp_arg_mul_I]

/-- With any bend it points the tip at the point, so that only the distance is left between. -/
theorem norm_tip_sub (z : ℂ) :
    ‖tip a d (arg z-arg (reach a d bend)) bend-z‖ = |‖reach a d bend‖-‖z‖| := by
  have hpolar := tip_polar a d (arg z-arg (reach a d bend)) bend
  rw [sub_add_cancel] at hpolar
  calc
    ‖tip a d (arg z-arg (reach a d bend)) bend-z‖ =
        ‖((‖reach a d bend‖-‖z‖ : ℝ) : ℂ)*exp (arg z*I)‖ := by
      rw [hpolar, Complex.ofReal_sub, sub_mul, Complex.norm_mul_exp_arg_mul_I]
    _ = |‖reach a d bend‖-‖z‖| := by
      rw [norm_mul, Complex.norm_exp_ofReal_mul_I, mul_one, Complex.norm_real, Real.norm_eq_abs]

/-- Two lengths are as close as the root of what their squares differ by. -/
theorem sq_sub_le {x y : ℝ} (hx : 0 ≤ x) (hy : 0 ≤ y) : (x-y)^2 ≤ |x^2-y^2| := by
  have hfactor : x^2-y^2 = (x-y)*(x+y) := by ring
  have hsum : |x-y| ≤ x+y := abs_sub_le_iff.mpr ⟨by linarith, by linarith⟩
  rw [hfactor, abs_mul, abs_of_nonneg (add_nonneg hx hy), ← sq_abs, sq]
  exact mul_le_mul_of_nonneg_left hsum (abs_nonneg _)

/-- No other lift does, among those that keep the argument of the tip in its range. -/
theorem lift_eq (hne : tip a d lift bend ≠ 0)
    (h : lift+arg (reach a d bend) ∈ Set.Ioc (-Real.pi) Real.pi) :
    lift = arg (tip a d lift bend)-arg (reach a d bend) := by
  have hpos : 0 < ‖reach a d bend‖ := by
    rw [← norm_tip a d lift bend]
    exact norm_pos_iff.mpr hne
  have harg : arg (tip a d lift bend) = lift+arg (reach a d bend) := by
    rw [tip_polar, Complex.exp_mul_I]
    exact Complex.arg_mul_cos_add_sin_mul_I hpos h
  rw [harg, add_sub_cancel_right]

theorem tip_re_polar :
    (tip a d lift bend).re = ‖reach a d bend‖*Real.cos (lift+arg (reach a d bend)) := by
  rw [tip_polar, Complex.re_ofReal_mul, Complex.exp_ofReal_mul_I_re]

end PlanarLinkage
