import Mathlib.LinearAlgebra.Matrix.NonsingularInverse
import PixelTelescope.Geometry.Detector
import PixelTelescope.Proofs.Reals

namespace PixelTelescope.Geometry

namespace Mat3

variable {m n : Mat3 ℝ}

def toMatrix (m : Mat3 ℝ) : Matrix (Fin 3) (Fin 3) ℝ :=
  !![m.a.x, m.a.y, m.a.z; m.b.x, m.b.y, m.b.z; m.c.x, m.c.y, m.c.z]

theorem toMatrix_multiply (m n : Mat3 ℝ) : (m.multiply n).toMatrix = m.toMatrix * n.toMatrix := by
  ext i j
  fin_cases i <;> fin_cases j <;>
    simp [toMatrix, multiply, apply, transpose, Vec3.dot, Matrix.mul_apply, Fin.sum_univ_three,
      mul_comm]

theorem toMatrix_identity : (identity : Mat3 ℝ).toMatrix = 1 := by
  ext i j
  fin_cases i <;> fin_cases j <;> simp [toMatrix, identity]

theorem toMatrix_injective (h : m.toMatrix = n.toMatrix) : m = n := by
  have hentry (i j : Fin 3) : m.toMatrix i j = n.toMatrix i j := congrFun (congrFun h i) j
  obtain ⟨⟨_, _, _⟩, ⟨_, _, _⟩, _, _, _⟩ := m
  obtain ⟨⟨_, _, _⟩, ⟨_, _, _⟩, _, _, _⟩ := n
  simp only [mk.injEq, Vec3.mk.injEq]
  exact ⟨⟨hentry 0 0, hentry 0 1, hentry 0 2⟩, ⟨hentry 1 0, hentry 1 1, hentry 1 2⟩, hentry 2 0,
    hentry 2 1, hentry 2 2⟩

/-- Where the rows of a matrix are orthogonal, so are its columns. -/
theorem transpose_multiply (h : m.multiply m.transpose = identity) :
    m.transpose.multiply m = identity := by
  apply toMatrix_injective
  have hrows := congrArg toMatrix h
  rw [toMatrix_multiply, toMatrix_identity] at hrows
  rw [toMatrix_multiply, toMatrix_identity]
  exact mul_eq_one_comm.mp hrows

theorem apply_apply (m n : Mat3 ℝ) (v : Vec3 ℝ) : m.apply (n.apply v) = (m.multiply n).apply v := by
  simp only [apply, multiply, transpose, Vec3.dot, Scalar.zero_real, zero_add, Vec3.mk.injEq]
  refine ⟨?_, ?_, ?_⟩ <;> ring

theorem apply_identity (v : Vec3 ℝ) : (identity : Mat3 ℝ).apply v = v := by
  simp [apply, identity, Vec3.dot]

end Mat3

/-- What the arrays of a detector hold where they have their shapes: an orthogonal orientation, and
at least one pixel along either axis, with positive pitches. -/
structure Frame (d : Detector ℝ) where
  centre : Vec3 ℝ
  turn : Mat3 ℝ
  columns : Int
  rows : Int
  pitchX : ℝ
  pitchY : ℝ
  position_eq : d.position = centre.toTensor
  orientation_eq : d.orientation = turn.toTensor
  pixels_eq : d.model.pixels = [columns, rows]
  pixelSize_eq : d.model.pixelSize = [pitchX, pitchY]
  orthogonal : turn.multiply turn.transpose = Mat3.identity
  columns_pos : 1 ≤ columns
  rows_pos : 1 ≤ rows
  pitchX_pos : 0 < pitchX
  pitchY_pos : 0 < pitchY

namespace Frame

variable {d : Detector ℝ}

noncomputable def outward (f : Frame d) (v : Vec3 ℝ) : Vec3 ℝ :=
  let turned := f.turn.apply v
  ⟨f.centre.x + turned.x, f.centre.y + turned.y, f.centre.z + turned.z⟩

noncomputable def inward (f : Frame d) (p : Vec3 ℝ) : Vec3 ℝ :=
  f.turn.transpose.apply ⟨p.x - f.centre.x, p.y - f.centre.y, p.z - f.centre.z⟩

theorem inward_outward (f : Frame d) (v : Vec3 ℝ) : f.inward (f.outward v) = v := by
  have hturned : (⟨(f.outward v).x - f.centre.x, (f.outward v).y - f.centre.y,
      (f.outward v).z - f.centre.z⟩ : Vec3 ℝ) = f.turn.apply v := by
    simp only [outward, add_sub_cancel_left]
  rw [inward, hturned, Mat3.apply_apply, Mat3.transpose_multiply f.orthogonal,
    Mat3.apply_identity]

noncomputable def middle (p q : Vec3 ℝ) : Vec3 ℝ :=
  ⟨0.5 * (p.x + q.x), 0.5 * (p.y + q.y), 0.5 * (p.z + q.z)⟩

theorem middle_outward (f : Frame d) (v w : Vec3 ℝ) :
    middle (f.outward v) (f.outward w) = f.outward (middle v w) := by
  simp only [middle, outward, Mat3.apply, Vec3.dot, Scalar.zero_real, Vec3.mk.injEq]
  refine ⟨?_, ?_, ?_⟩ <;> ring

end Frame

noncomputable def pixelOf (pixels : Int) (pitch place : ℝ) : Int :=
  ⌊(place + 0.5 * (pixels * pitch)) / pitch⌋

/-- The middle of a pixel lies in it. -/
theorem pixelOf_centre {pixels k : Int} {pitch : ℝ} (hpitch : 0 < pitch) :
    pixelOf pixels pitch ((k + 0.5) * pitch - 0.5 * pixels * pitch) = k := by
  have hplace : ((k + 0.5) * pitch - 0.5 * pixels * pitch + 0.5 * (pixels * pitch)) / pitch =
      (k : ℝ) + 0.5 := by
    field_simp
    ring
  rw [pixelOf, hplace, Int.floor_eq_iff]
  constructor <;> norm_num

/-- The middle of a pixel of the matrix lies inside it. -/
theorem centre_inside {pixels k : Int} {pitch : ℝ} (hpitch : 0 < pitch) (hlow : 0 ≤ k)
    (hhigh : k < pixels) :
    |((k : ℝ) + 0.5) * pitch - 0.5 * pixels * pitch| < pixels * pitch / 2 := by
  have hlow : (0 : ℝ) ≤ k := by exact_mod_cast hlow
  have hhigh : (k : ℝ) + 1 ≤ pixels := by exact_mod_cast hhigh
  rw [abs_lt]
  constructor <;> nlinarith

end PixelTelescope.Geometry
