import Mathlib.Analysis.SpecialFunctions.Complex.Arg
import PixelTelescope.Scalar

namespace PixelTelescope

noncomputable def Text.Numeral.real (n : Text.Numeral) : ℝ := n.digits * 10 ^ n.exponent

/-- A numeral as it is read elsewhere, but without rounding. The words for infinity and for no
number stand for no real one. -/
noncomputable def Text.readReal (s : String) : Option ℝ := do
  let cs ← Text.plain? s.toList
  let digits ← Text.joinDigits (Text.trimBoth Text.isAsciiBlank cs)
  let (negative, body) := Text.splitSign digits
  let n ← Text.readNumeral body
  return if negative then -n.real else n.real

/-- Exact numbers. There is none that is not a number: every whole number is a real one, and so
nothing asks for it. -/
noncomputable instance : Scalar ℝ where
  pi := Real.pi
  sqrt := Real.sqrt
  sin := Real.sin
  cos := Real.cos
  arctan2 y x := Complex.arg ⟨x, y⟩
  hypot x y := √(x ^ 2 + y ^ 2)
  abs := abs
  floor x := ⌊x⌋
  less x y := decide (x < y)
  equal x y := decide (x = y)
  ofInt? n := some n
  ofText? := Text.readReal
  truncate x := .ok (if 0 ≤ x then ⌊x⌋ else ⌈x⌉)
  nan := 0

namespace Scalar

@[simp] theorem zero_real : (0.0 : ℝ) = 0 := by norm_num

@[simp] theorem one_real : (1.0 : ℝ) = 1 := by norm_num

@[simp] theorem pi_real : (pi : ℝ) = Real.pi := rfl

@[simp] theorem sqrt_real (x : ℝ) : sqrt x = √x := rfl

@[simp] theorem sin_real (x : ℝ) : sin x = Real.sin x := rfl

@[simp] theorem cos_real (x : ℝ) : cos x = Real.cos x := rfl

@[simp] theorem arctan2_real (y x : ℝ) : arctan2 y x = Complex.arg ⟨x, y⟩ := rfl

@[simp] theorem hypot_real (x y : ℝ) : hypot x y = √(x ^ 2 + y ^ 2) := rfl

@[simp] theorem less_real (x y : ℝ) : less x y = decide (x < y) := rfl

@[simp] theorem ofInt?_real (n : Int) : ofInt? n = some (n : ℝ) := rfl

theorem hypot_nonneg (x y : ℝ) : 0 ≤ hypot x y := Real.sqrt_nonneg _

theorem hypot_sq (x y : ℝ) : hypot x y ^ 2 = x ^ 2 + y ^ 2 := Real.sq_sqrt (by positivity)

theorem hypot_of_sq {x y r : ℝ} (hr : 0 ≤ r) (h : x ^ 2 + y ^ 2 = r ^ 2) : hypot x y = r := by
  rw [hypot_real, h, Real.sqrt_sq hr]

theorem hypot_comm (x y : ℝ) : hypot x y = hypot y x := by rw [hypot_real, hypot_real, add_comm]

theorem norm_point (x y : ℝ) : ‖(⟨x, y⟩ : ℂ)‖ = hypot x y := Complex.norm_eq_sqrt_sq_add_sq _

theorem sin_arctan2 (y x : ℝ) : Real.sin (arctan2 y x) = y / hypot x y := by
  rw [arctan2_real, Complex.sin_arg, norm_point]

/-- The point of no length has no direction. -/
theorem cos_arctan2 {y x : ℝ} (h : 0 < hypot x y) : Real.cos (arctan2 y x) = x / hypot x y := by
  have hne : (⟨x, y⟩ : ℂ) ≠ 0 := norm_pos_iff.mp (by rwa [norm_point])
  rw [arctan2_real, Complex.cos_arg hne, norm_point]

theorem arctan2_polar {r θ : ℝ} (hr : 0 < r) (hθ : θ ∈ Set.Ioc (-Real.pi) Real.pi) :
    arctan2 (r * Real.sin θ) (r * Real.cos θ) = θ := by
  have hpoint : (⟨r * Real.cos θ, r * Real.sin θ⟩ : ℂ) =
      r * (Complex.cos θ + Complex.sin θ * Complex.I) := by
    apply Complex.ext <;> simp [← Complex.ofReal_cos, ← Complex.ofReal_sin]
  rw [arctan2_real, hpoint, Complex.arg_mul_cos_add_sin_mul_I hr hθ]

end Scalar

end PixelTelescope
