import Mathlib.Tactic.LinearCombination
import PixelTelescope.Geometry.Rotation
import PixelTelescope.Proofs.Reals

namespace PixelTelescope.Geometry

open Scalar (hypot arctan2)

variable {m n : Mat3 ℝ} {v : Vec3 ℝ} {ε δ : ℝ}

/-- Rows of length one at right angles to each other, and no mirror image. -/
structure Mat3.Proper (m : Mat3 ℝ) : Prop where
  orthogonal : m.multiply m.transpose = Mat3.identity
  determinant : m.determinant = 1

structure Vec3.Near (ε : ℝ) (v w : Vec3 ℝ) : Prop where
  x : |v.x - w.x| ≤ ε
  y : |v.y - w.y| ≤ ε
  z : |v.z - w.z| ≤ ε

structure Mat3.Near (ε : ℝ) (m n : Mat3 ℝ) : Prop where
  a : m.a.Near ε n.a
  b : m.b.Near ε n.b
  c : m.c.Near ε n.c

theorem Vec3.Near.mono {v w : Vec3 ℝ} (h : v.Near ε w) (hle : ε ≤ δ) : v.Near δ w :=
  ⟨h.x.trans hle, h.y.trans hle, h.z.trans hle⟩

theorem Mat3.Near.mono (h : m.Near ε n) (hle : ε ≤ δ) : m.Near δ n :=
  ⟨h.a.mono hle, h.b.mono hle, h.c.mono hle⟩

theorem Vec3.Near.eq {v w : Vec3 ℝ} (h : v.Near 0 w) : v = w := by
  obtain ⟨x, y, z⟩ := v
  obtain ⟨x', y', z'⟩ := w
  obtain rfl : x = x' := sub_eq_zero.mp (abs_nonpos_iff.mp h.x)
  obtain rfl : y = y' := sub_eq_zero.mp (abs_nonpos_iff.mp h.y)
  obtain rfl : z = z' := sub_eq_zero.mp (abs_nonpos_iff.mp h.z)
  rfl

theorem Mat3.Near.eq (h : m.Near 0 n) : m = n := by
  obtain ⟨a, b, c⟩ := m
  obtain ⟨a', b', c'⟩ := n
  obtain rfl : a = a' := h.a.eq
  obtain rfl : b = b' := h.b.eq
  obtain rfl : c = c' := h.c.eq
  rfl

theorem Mat3.near_refl (hε : 0 ≤ ε) (m : Mat3 ℝ) : m.Near ε m := by
  refine ⟨⟨?_, ?_, ?_⟩, ⟨?_, ?_, ?_⟩, ⟨?_, ?_, ?_⟩⟩ <;> simpa using hε

/-- The three turns multiplied out. -/
theorem rotationMatrix_real (α β γ : ℝ) : rotationMatrix α β γ =
    ⟨⟨Real.cos γ * Real.cos β, Real.cos γ * Real.sin β * Real.sin α - Real.sin γ * Real.cos α,
        Real.cos γ * Real.sin β * Real.cos α + Real.sin γ * Real.sin α⟩,
      ⟨Real.sin γ * Real.cos β, Real.sin γ * Real.sin β * Real.sin α + Real.cos γ * Real.cos α,
        Real.sin γ * Real.sin β * Real.cos α - Real.cos γ * Real.sin α⟩,
      ⟨-Real.sin β, Real.cos β * Real.sin α, Real.cos β * Real.cos α⟩⟩ := by
  simp only [rotationMatrix, Mat3.multiply, Mat3.apply, Mat3.transpose, Vec3.dot, Scalar.cos_real,
    Scalar.sin_real, Scalar.zero_real, Scalar.one_real, Mat3.mk.injEq, Vec3.mk.injEq]
  refine ⟨⟨?_, ?_, ?_⟩, ⟨?_, ?_, ?_⟩, ⟨?_, ?_, ?_⟩⟩ <;> ring

def Vec3.cross (v w : Vec3 ℝ) : Vec3 ℝ :=
  ⟨v.y * w.z - v.z * w.y, v.z * w.x - v.x * w.z, v.x * w.y - v.y * w.x⟩

/-- The third of three directions at right angles: the squares of what it differs by from the
vector product of the others add up to nothing. -/
theorem Vec3.eq_cross {v w u : Vec3 ℝ} (hv : v.x ^ 2 + v.y ^ 2 + v.z ^ 2 = 1)
    (hw : w.x ^ 2 + w.y ^ 2 + w.z ^ 2 = 1) (hu : u.x ^ 2 + u.y ^ 2 + u.z ^ 2 = 1)
    (hvw : v.x * w.x + v.y * w.y + v.z * w.z = 0)
    (hd : v.x * (w.y * u.z - w.z * u.y) - v.y * (w.x * u.z - w.z * u.x) +
      v.z * (w.x * u.y - w.y * u.x) = 1) : u = v.cross w := by
  have hsquares : (u.x - (v.cross w).x) ^ 2 + (u.y - (v.cross w).y) ^ 2 +
      (u.z - (v.cross w).z) ^ 2 = 0 := by
    simp only [cross]
    linear_combination hu - 2 * hd + (w.x ^ 2 + w.y ^ 2 + w.z ^ 2) * hv + hw -
      (v.x * w.x + v.y * w.y + v.z * w.z) * hvw
  have hx := sq_nonneg (u.x - (v.cross w).x)
  have hy := sq_nonneg (u.y - (v.cross w).y)
  have hz := sq_nonneg (u.z - (v.cross w).z)
  have hzero {d : ℝ} (h : d ^ 2 ≤ 0) : |d| ≤ 0 :=
    abs_nonpos_iff.mpr (pow_eq_zero_iff two_ne_zero |>.mp (le_antisymm h (sq_nonneg d)))
  exact Near.eq ⟨hzero (by linarith), hzero (by linarith), hzero (by linarith)⟩

namespace Mat3.Proper

/-- The relations among the rows, entry by entry. -/
theorem rows (h : m.Proper) :
    (m.a.x ^ 2 + m.a.y ^ 2 + m.a.z ^ 2 = 1 ∧ m.b.x ^ 2 + m.b.y ^ 2 + m.b.z ^ 2 = 1 ∧
      m.c.x ^ 2 + m.c.y ^ 2 + m.c.z ^ 2 = 1) ∧
    m.a.x * m.b.x + m.a.y * m.b.y + m.a.z * m.b.z = 0 ∧
    m.b.x * m.c.x + m.b.y * m.c.y + m.b.z * m.c.z = 0 ∧
    m.c.x * m.a.x + m.c.y * m.a.y + m.c.z * m.a.z = 0 := by
  have horthogonal := h.orthogonal
  simp only [multiply, apply, transpose, Vec3.dot, identity, Scalar.zero_real, Scalar.one_real,
    Mat3.mk.injEq, Vec3.mk.injEq] at horthogonal
  obtain ⟨⟨haa, hab, -⟩, ⟨-, hbb, hbc⟩, hca, -, hcc⟩ := horthogonal
  refine ⟨⟨?_, ?_, ?_⟩, ?_, ?_, ?_⟩
  · linear_combination haa
  · linear_combination hbb
  · linear_combination hcc
  · linear_combination hab
  · linear_combination hbc
  · linear_combination hca

/-- Each row is the vector product of the two that follow it. -/
theorem crosses (h : m.Proper) :
    m.a = m.b.cross m.c ∧ m.b = m.c.cross m.a ∧ m.c = m.a.cross m.b := by
  obtain ⟨⟨haa, hbb, hcc⟩, hab, hbc, hca⟩ := h.rows
  have hd : m.a.x * (m.b.y * m.c.z - m.b.z * m.c.y) - m.a.y * (m.b.x * m.c.z - m.b.z * m.c.x) +
      m.a.z * (m.b.x * m.c.y - m.b.y * m.c.x) = 1 := h.determinant
  refine ⟨Vec3.eq_cross hbb hcc haa hbc ?_, Vec3.eq_cross hcc haa hbb hca ?_,
    Vec3.eq_cross haa hbb hcc hab hd⟩
  · linear_combination hd
  · linear_combination hd

/-- The columns have length one and stand at right angles to each other, too. -/
theorem columns (h : m.Proper) :
    m.a.x ^ 2 + m.b.x ^ 2 + m.c.x ^ 2 = 1 ∧ m.a.y ^ 2 + m.b.y ^ 2 + m.c.y ^ 2 = 1 ∧
      m.a.x * m.a.y + m.b.x * m.b.y + m.c.x * m.c.y = 0 ∧
      m.a.x * m.a.z + m.b.x * m.b.z + m.c.x * m.c.z = 0 := by
  have hd : m.a.x * (m.b.y * m.c.z - m.b.z * m.c.y) - m.a.y * (m.b.x * m.c.z - m.b.z * m.c.x) +
      m.a.z * (m.b.x * m.c.y - m.b.y * m.c.x) = 1 := h.determinant
  obtain ⟨ha, hb, hc⟩ := h.crosses
  obtain ⟨hax, hay, haz⟩ := Vec3.mk.inj ha
  obtain ⟨hbx, hby, hbz⟩ := Vec3.mk.inj hb
  obtain ⟨hcx, hcy, hcz⟩ := Vec3.mk.inj hc
  refine ⟨?_, ?_, ?_, ?_⟩
  · linear_combination m.a.x * hax + m.b.x * hbx + m.c.x * hcx + hd
  · linear_combination m.a.y * hay + m.b.y * hby + m.c.y * hcy + hd
  · linear_combination m.a.x * hay + m.b.x * hby + m.c.x * hcy
  · linear_combination m.a.x * haz + m.b.x * hbz + m.c.x * hcz

theorem hypot_bottom (h : m.Proper) : hypot m.c.y m.c.z = hypot m.a.x m.b.x := by
  obtain ⟨⟨-, -, hcc⟩, -⟩ := h.rows
  obtain ⟨hx, -⟩ := h.columns
  refine Scalar.hypot_of_sq (Scalar.hypot_nonneg _ _) ?_
  rw [Scalar.hypot_sq]
  linear_combination hcc - hx

end Mat3.Proper

theorem rotationAngles_y (m : Mat3 ℝ) :
    (rotationAngles m).y = arctan2 (-m.c.x) (hypot m.c.y m.c.z) := by
  rw [rotationAngles]
  split <;> rfl

namespace Mat3.Proper

/-- The middle angle, whether the others are determined or not. -/
theorem middle (h : m.Proper) :
    Real.sin (rotationAngles m).y = -m.c.x ∧ Real.cos (rotationAngles m).y = hypot m.a.x m.b.x := by
  obtain ⟨hx, -⟩ := h.columns
  have hone : hypot (hypot m.a.x m.b.x) (-m.c.x) = 1 := by
    refine Scalar.hypot_of_sq zero_le_one ?_
    rw [Scalar.hypot_sq]
    linear_combination hx
  have hpos : 0 < hypot (hypot m.a.x m.b.x) (-m.c.x) := by
    rw [hone]
    exact one_pos
  rw [rotationAngles_y, h.hypot_bottom, Scalar.sin_arctan2, Scalar.cos_arctan2 hpos, hone, div_one,
    div_one]
  exact ⟨rfl, rfl⟩

end Mat3.Proper

/-- Where the first angle and the last are determined, each by a point that is not the origin, they
give the rotation back. -/
theorem rotationMatrix_of_determined (hm : m.Proper) (hpos : 0 < hypot m.a.x m.b.x) {β : ℝ}
    (hsin : Real.sin β = -m.c.x) (hcos : Real.cos β = hypot m.a.x m.b.x) :
    rotationMatrix (arctan2 m.c.y m.c.z) β (arctan2 m.b.x m.a.x) = m := by
  obtain ⟨-, -, hxy, hxz⟩ := hm.columns
  obtain ⟨-, -, hc⟩ := hm.crosses
  obtain ⟨-, hcy, hcz⟩ := Vec3.mk.inj hc
  have hsq := Scalar.hypot_sq m.a.x m.b.x
  have hbottom := (Scalar.hypot_comm _ _).trans hm.hypot_bottom
  have hne := hpos.ne'
  rw [rotationMatrix_real, Scalar.sin_arctan2, Scalar.sin_arctan2, Scalar.cos_arctan2 hpos,
    Scalar.cos_arctan2 (by rwa [hbottom]), hbottom, hsin, hcos]
  generalize hypot m.a.x m.b.x = h at hsq hne
  refine Mat3.Near.eq ⟨⟨?_, ?_, ?_⟩, ⟨?_, ?_, ?_⟩, ⟨?_, ?_, ?_⟩⟩ <;>
    refine (abs_nonpos_iff.mpr (sub_eq_zero.mpr ?_)) <;> dsimp only <;> field_simp
  · linear_combination -m.a.x * hxy - m.b.x * hcz - m.a.y * hsq
  · linear_combination -m.a.x * hxz + m.b.x * hcy - m.a.z * hsq
  · linear_combination -m.b.x * hxy + m.a.x * hcz - m.b.y * hsq
  · linear_combination -m.b.x * hxz - m.a.x * hcy - m.b.z * hsq

theorem abs_le_of_sq_add_sq {x y h : ℝ} (hh : 0 ≤ h) (hsq : x ^ 2 + y ^ 2 = h ^ 2) : |x| ≤ h :=
  abs_le_of_sq_le_sq (by nlinarith [sq_nonneg y]) hh

theorem abs_mul_le_of_le_one {x y h : ℝ} (hx : |x| ≤ 1) (hy : |y| ≤ h) : |x * y| ≤ h := by
  rw [abs_mul]
  exact (mul_le_of_le_one_left (abs_nonneg y) hx).trans hy

theorem abs_sub_le_two {x y h : ℝ} (hx : |x| ≤ h) (hy : |y| ≤ h) : |x - y| ≤ 2 * h := by
  obtain ⟨hx, hx'⟩ := abs_le.mp hx
  obtain ⟨hy, hy'⟩ := abs_le.mp hy
  exact abs_le.mpr ⟨by linarith, by linarith⟩

namespace Mat3.Proper

/-- The entries beside the corner are no greater than what is left of the first axis. -/
theorem small (hm : m.Proper) :
    (|m.a.x| ≤ hypot m.a.x m.b.x ∧ |m.b.x| ≤ hypot m.a.x m.b.x) ∧
      |m.c.y| ≤ hypot m.a.x m.b.x ∧ |m.c.z| ≤ hypot m.a.x m.b.x := by
  obtain ⟨hx, -⟩ := hm.columns
  obtain ⟨⟨-, -, hcc⟩, -⟩ := hm.rows
  have hnonneg := Scalar.hypot_nonneg m.a.x m.b.x
  have hsq := (Scalar.hypot_sq m.a.x m.b.x).symm
  have hsq' : m.c.y ^ 2 + m.c.z ^ 2 = hypot m.a.x m.b.x ^ 2 := by linarith
  exact ⟨⟨abs_le_of_sq_add_sq hnonneg hsq,
      abs_le_of_sq_add_sq hnonneg ((add_comm _ _).trans hsq)⟩,
    abs_le_of_sq_add_sq hnonneg hsq', abs_le_of_sq_add_sq hnonneg ((add_comm _ _).trans hsq')⟩

/-- The second column keeps almost its whole length in the plane of the last turn. -/
theorem gap (hm : m.Proper) (hlt : hypot m.a.x m.b.x < 1) :
    |1 - hypot m.b.y (-m.a.y)| ≤ hypot m.a.x m.b.x := by
  obtain ⟨-, hy, -⟩ := hm.columns
  obtain ⟨-, hcy, -⟩ := hm.small
  have hnonneg := Scalar.hypot_nonneg m.b.y (-m.a.y)
  have hsq : hypot m.b.y (-m.a.y) ^ 2 = 1 - m.c.y ^ 2 := by
    rw [Scalar.hypot_sq]
    linear_combination hy
  have hle : m.c.y ^ 2 ≤ hypot m.a.x m.b.x := by nlinarith [sq_abs m.c.y, abs_nonneg m.c.y]
  exact abs_le.mpr ⟨by nlinarith, by nlinarith⟩

end Mat3.Proper

/-- Where the first axis is turned almost into the third, the first angle can be left out: that
costs no entry more than twice the length `h` which is left of the first axis. -/
theorem rotationMatrix_near (hm : m.Proper) {h β : ℝ} (hh : h = hypot m.a.x m.b.x) (hlt : h < 1)
    (hsin : Real.sin β = -m.c.x) (hcos : Real.cos β = h) :
    (rotationMatrix 0 β (arctan2 (-m.a.y) m.b.y)).Near (2 * h) m := by
  obtain ⟨ha, hb, -⟩ := hm.crosses
  obtain ⟨-, -, haz⟩ := Vec3.mk.inj ha
  obtain ⟨-, -, hbz⟩ := Vec3.mk.inj hb
  obtain ⟨⟨hax, hbx⟩, hcy, hcz⟩ := hm.small
  have hnonneg := Scalar.hypot_nonneg m.a.x m.b.x
  have hgap := hm.gap (hh ▸ hlt)
  rw [← hh] at hax hbx hcy hcz hnonneg hgap
  have hcx : |m.c.x| ≤ 1 := by rw [← abs_neg, ← hsin]; exact Real.abs_sin_le_one β
  obtain ⟨ρ, hρ⟩ : ∃ ρ, ρ = hypot m.b.y (-m.a.y) := ⟨_, rfl⟩
  rw [← hρ] at hgap
  have hpos : 0 < ρ := by linarith [abs_le.mp hgap]
  obtain ⟨k, hk⟩ : ∃ k, k = Real.cos (arctan2 (-m.a.y) m.b.y) := ⟨_, rfl⟩
  obtain ⟨s, hs⟩ : ∃ s, s = Real.sin (arctan2 (-m.a.y) m.b.y) := ⟨_, rfl⟩
  have hk1 : |k| ≤ 1 := hk ▸ Real.abs_cos_le_one _
  have hs1 : |s| ≤ 1 := hs ▸ Real.abs_sin_le_one _
  rw [rotationMatrix_real, Real.sin_zero, Real.cos_zero, hsin, hcos, ← hk, ← hs]
  rw [Scalar.cos_arctan2 (hρ ▸ hpos), ← hρ, eq_div_iff hpos.ne'] at hk
  rw [Scalar.sin_arctan2, ← hρ, eq_div_iff hpos.ne'] at hs
  refine ⟨⟨?_, ?_, ?_⟩, ⟨?_, ?_, ?_⟩, ⟨?_, ?_, ?_⟩⟩ <;> dsimp only
  · exact abs_sub_le_two (abs_mul_le_of_le_one hk1 (abs_of_nonneg hnonneg).le) hax
  · have he : k * -m.c.x * 0 - s * 1 - m.a.y = -(s * (1 - ρ)) := by linear_combination -hs
    rw [he, abs_neg]
    exact (abs_mul_le_of_le_one hs1 hgap).trans (by linarith)
  · have he : k * -m.c.x * 1 + s * 0 - m.a.z = -(k * (m.c.x * (1 - ρ))) - m.b.x * m.c.y := by
      linear_combination -m.c.x * hk - haz
    rw [he]
    refine abs_sub_le_two ?_ (abs_mul_le_of_le_one (hbx.trans hlt.le) hcy)
    rw [abs_neg]
    exact abs_mul_le_of_le_one hk1 (abs_mul_le_of_le_one hcx hgap)
  · exact abs_sub_le_two (abs_mul_le_of_le_one hs1 (abs_of_nonneg hnonneg).le) hbx
  · have he : s * -m.c.x * 0 + k * 1 - m.b.y = k * (1 - ρ) := by linear_combination hk
    rw [he]
    exact (abs_mul_le_of_le_one hk1 hgap).trans (by linarith)
  · have he : s * -m.c.x * 1 - k * 0 - m.b.z = m.a.x * m.c.y - s * (m.c.x * (1 - ρ)) := by
      linear_combination -hbz - m.c.x * hs
    rw [he]
    exact abs_sub_le_two (abs_mul_le_of_le_one (hax.trans hlt.le) hcy)
      (abs_mul_le_of_le_one hs1 (abs_mul_le_of_le_one hcx hgap))
  · simpa using hnonneg
  · simpa using hcy.trans (by linarith)
  · simpa using abs_sub_le_two (abs_of_nonneg hnonneg).le hcz

/-- Angles that give a rotation back, the middle one between minus and plus a right angle. They give
it back exactly unless the first axis is turned almost, and yet not quite, into the third. -/
structure Recovers (v : Vec3 ℝ) (m : Mat3 ℝ) : Prop where
  middle : -(Real.pi / 2) ≤ v.y ∧ v.y ≤ Real.pi / 2
  exact : hypot m.a.x m.b.x = 0 ∨ 1e-12 ≤ hypot m.a.x m.b.x → rotationMatrix v.x v.y v.z = m
  near : (rotationMatrix v.x v.y v.z).Near 1e-11 m

theorem rotationAngles_middle (m : Mat3 ℝ) :
    -(Real.pi / 2) ≤ (rotationAngles m).y ∧ (rotationAngles m).y ≤ Real.pi / 2 := by
  rw [rotationAngles_y, Scalar.arctan2_real]
  exact abs_le.mp (Complex.abs_arg_le_pi_div_two_iff.mpr (Scalar.hypot_nonneg _ _))

/-- Angles in their ranges are found again in the matrix that they give. -/
theorem rotationAngles_rotationMatrix {α β γ : ℝ} (hα : α ∈ Set.Ioc (-Real.pi) Real.pi)
    (hβ : β ∈ Set.Ioo (-(Real.pi / 2)) (Real.pi / 2)) (hγ : γ ∈ Set.Ioc (-Real.pi) Real.pi)
    (hcos : 1e-12 ≤ Real.cos β) : rotationAngles (rotationMatrix α β γ) = ⟨α, β, γ⟩ := by
  have hpos : 0 < Real.cos β := lt_of_lt_of_le (by norm_num) hcos
  have hfirst : hypot (Real.cos γ * Real.cos β) (Real.sin γ * Real.cos β) = Real.cos β :=
    Scalar.hypot_of_sq hpos.le (by
      linear_combination Real.cos β ^ 2 * Real.sin_sq_add_cos_sq γ)
  have hlast : hypot (Real.cos β * Real.sin α) (Real.cos β * Real.cos α) = Real.cos β :=
    Scalar.hypot_of_sq hpos.le (by
      linear_combination Real.cos β ^ 2 * Real.sin_sq_add_cos_sq α)
  have hmiddle : arctan2 (Real.sin β) (Real.cos β) = β := by
    have hwide : β ∈ Set.Ioc (-Real.pi) Real.pi :=
      ⟨by linarith [hβ.1, Real.pi_pos], by linarith [hβ.2, Real.pi_pos]⟩
    have hpolar := Scalar.arctan2_polar one_pos hwide
    rwa [one_mul, one_mul] at hpolar
  have hturn : arctan2 (Real.sin γ * Real.cos β) (Real.cos γ * Real.cos β) = γ := by
    rw [mul_comm, mul_comm (Real.cos γ), Scalar.arctan2_polar hpos hγ]
  have hdetermined : Scalar.less (Real.cos β) 1e-12 = false := by
    rw [Scalar.less_real, decide_eq_false_iff_not]
    exact not_lt.mpr hcos
  rw [rotationMatrix_real, rotationAngles]
  dsimp only
  rw [hfirst, hlast, hdetermined, neg_neg, hmiddle, Scalar.arctan2_polar hpos hα, hturn]
  rfl

theorem Mat3.Proper.recovers (hm : m.Proper) : Recovers (rotationAngles m) m := by
  obtain ⟨hsin, hcos⟩ := hm.middle
  have hmiddle := rotationAngles_middle m
  by_cases hlt : hypot m.a.x m.b.x < 1e-12
  · -- the first angle is left out
    have hx : (rotationAngles m).x = 0 := by simp [rotationAngles, -Scalar.hypot_real, hlt]
    have hz : (rotationAngles m).z = arctan2 (-m.a.y) m.b.y := by
      simp [rotationAngles, -Scalar.hypot_real, hlt]
    have hnear := rotationMatrix_near hm rfl (hlt.trans (by norm_num)) hsin hcos
    rw [← hx, ← hz] at hnear
    refine ⟨hmiddle, fun hdetermined => ?_, hnear.mono (by linarith)⟩
    rcases hdetermined with hzero | hle
    · rw [hzero, mul_zero] at hnear
      exact hnear.eq
    · exact absurd hlt (not_lt.mpr hle)
  · have hx : (rotationAngles m).x = arctan2 m.c.y m.c.z := by
      simp [rotationAngles, -Scalar.hypot_real, hlt]
    have hz : (rotationAngles m).z = arctan2 m.b.x m.a.x := by
      simp [rotationAngles, -Scalar.hypot_real, hlt]
    have hpos : 0 < hypot m.a.x m.b.x := lt_of_lt_of_le (by norm_num) (not_lt.mp hlt)
    have hsame := rotationMatrix_of_determined hm hpos hsin hcos
    rw [← hx, ← hz] at hsame
    exact ⟨hmiddle, fun _ => hsame, hsame.symm ▸ Mat3.near_refl (by norm_num) m⟩

end PixelTelescope.Geometry
