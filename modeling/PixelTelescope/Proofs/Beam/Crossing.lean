import PixelTelescope.Proofs.Reals
import PixelTelescope.Beam.Crossing
import PixelTelescope.Proofs.Gear.Layers

namespace PixelTelescope

namespace Geometry

variable {α : Type}

theorem Mat3.ofTensor_ok {t : Tensor α} {m : Mat3 α} (h : Mat3.ofTensor t = .ok m) :
    t = m.toTensor := by
  obtain ⟨sizes, entries⟩ := t
  unfold ofTensor at h
  split at h
  · rename_i hsizes hentries
    obtain rfl := Except.ok.inj h
    dsimp only at hsizes hentries
    subst hsizes hentries
    rfl
  · contradiction

variable [Scalar α]

/-- A matrix as an array is applied to a point as it is elsewhere. -/
theorem Mat3.multiply_toTensor (m : Mat3 α) (v : Vec3 α) :
    m.toTensor.multiply v.toTensor = .ok (m.apply v).toTensor := rfl

end Geometry

namespace Beam

open PixelTelescope.Geometry

theorem outward_point {α : Type} [Scalar α] {d : Detector α} (hd : Gear.Shaped d) (x y z : α) :
    ∃ v : Vec3 α, outward d [x, y, z] = .ok v.toTensor := by
  obtain ⟨px, py, pz, hposition⟩ := hd.position
  obtain ⟨m, hm⟩ := hd.orientation
  have hp : d.position = Vec3.toTensor ⟨px, py, pz⟩ := hposition
  let turned := m.apply ⟨x, y, z⟩
  refine ⟨⟨px + turned.x, py + turned.y, pz + turned.z⟩, ?_⟩
  rw [outward, Mat3.ofTensor_ok hm, hp]
  exact bind_of_ok (Mat3.multiply_toTensor m ⟨x, y, z⟩) _

theorem clamped_inside {greatest : ℝ} (h : 0 ≤ greatest) (x : ℝ) :
    0 ≤ clamped greatest x ∧ clamped greatest x ≤ greatest := by
  unfold clamped
  simp only [Scalar.less_real, Scalar.zero_real, decide_eq_true_eq]
  split <;> split <;> constructor <;> linarith

/-- However far a shift leads, the pixel is one of the matrix. -/
theorem pixelAt_inside {pixels : Int} (h : 1 ≤ pixels) (fraction shift : ℝ) :
    ∃ k, pixelAt pixels fraction shift = .ok k ∧ 0 ≤ k ∧ k < pixels := by
  have hgreatest : (0 : ℝ) ≤ ((pixels - 1 : ℤ) : ℝ) := by
    exact_mod_cast Int.sub_nonneg_of_le h
  obtain ⟨hlow, hhigh⟩ :=
    clamped_inside hgreatest (Scalar.floor (fraction * (pixels : ℝ) + shift))
  refine ⟨⌊clamped ((pixels - 1 : ℤ) : ℝ) (Scalar.floor (fraction * (pixels : ℝ) + shift))⌋, ?_,
    Int.floor_nonneg.mpr hlow, ?_⟩
  · exact congrArg Except.ok (if_pos hlow)
  · have hfloor := Int.floor_le_floor hhigh
    rw [Int.floor_intCast] at hfloor
    omega

structure Leaves (d : Detector ℝ) (t : Track ℝ) (hit : Event.Hit ℝ) : Prop where
  pixel : ∃ columns rows x y, d.model.pixels = [columns, rows] ∧ hit.column = .whole x ∧
    hit.row = .whole y ∧ (0 ≤ x ∧ x < columns) ∧ 0 ≤ y ∧ y < rows
  signal : ∃ s, hit.signal = .real s
  time : hit.time = .real t.time
  particle : ∃ (p : Event.Particle ℝ) (v w : Vec3 ℝ), hit.particles = [p] ∧ p.track = t.id ∧
    p.pdg = 11 ∧ p.entry = v.toTensor ∧ p.exit = w.toTensor

/-- A detector that tracks can cross: its arrays have their shapes, and it has pixels, no more of
them than can be numbered. -/
structure Crossable (d : Detector ℝ) : Prop where
  shaped : Gear.Shaped d
  pixels : ∀ n ∈ d.model.pixels, 1 ≤ n ∧ n ≤ 2 ^ 31

theorem particleAt_points {d : Detector ℝ} (hd : Gear.Shaped d) (track : Nat) (x y : ℝ) :
    ∃ (p : Event.Particle ℝ) (v w : Vec3 ℝ), particleAt d track x y = .ok p ∧ p.track = track ∧
      p.pdg = 11 ∧ p.entry = v.toTensor ∧ p.exit = w.toTensor := by
  obtain ⟨v, hv⟩ := outward_point hd x y (0.0 - 0.5 * d.model.thickness)
  obtain ⟨w, hw⟩ := outward_point hd x y (0.0 + 0.5 * d.model.thickness)
  refine ⟨⟨track, 11, v.toTensor, w.toTensor⟩, v, w, ?_, rfl, rfl, rfl, rfl⟩
  rw [particleAt, bind_of_ok hv, bind_of_ok hw]
  rfl

theorem hitOf_leaves {d : Detector ℝ} (hd : Crossable d) (t : Track ℝ)
    (shiftX shiftY signal : ℝ) :
    ∃ hit, hitOf d t shiftX shiftY signal = .ok hit ∧ Leaves d t hit := by
  obtain ⟨columns, rows, hpixels, -, -⟩ := hd.shaped.pixels
  obtain ⟨pitchX, pitchY, hpitch⟩ := hd.shaped.pitch
  obtain ⟨x, hx, hxinside⟩ :=
    pixelAt_inside (hd.pixels columns (by simp [hpixels])).1 t.u shiftX
  obtain ⟨y, hy, hyinside⟩ := pixelAt_inside (hd.pixels rows (by simp [hpixels])).1 t.v shiftY
  obtain ⟨p, v, w, hp, hparticle⟩ := particleAt_points hd.shaped t.id
    (((x : ℝ) + 0.5) * pitchX - 0.5 * (columns : ℝ) * pitchX)
    (((y : ℝ) + 0.5) * pitchY - 0.5 * (rows : ℝ) * pitchY)
  refine ⟨⟨d.name, .whole x, .whole y, .real signal, .real t.time, [p]⟩, ?_,
    ⟨columns, rows, x, y, hpixels, rfl, rfl, hxinside, hyinside⟩, ⟨signal, rfl⟩, rfl,
    p, v, w, rfl, hparticle⟩
  have hcount : pair [columns, rows] = .ok (columns, rows) := rfl
  have hsize : pair [pitchX, pitchY] = .ok (pitchX, pitchY) := rfl
  have hcentreX : pixelCentre columns pitchX x =
      .ok (((x : ℝ) + 0.5) * pitchX - 0.5 * (columns : ℝ) * pitchX) := rfl
  have hcentreY : pixelCentre rows pitchY y =
      .ok (((y : ℝ) + 0.5) * pitchY - 0.5 * (rows : ℝ) * pitchY) := rfl
  rw [hitOf, hpixels, hpitch, bind_of_ok (liftShape_eq_ok.mpr hcount)]
  dsimp only
  rw [bind_of_ok (liftM_eq_ok.mpr hx), bind_of_ok (liftM_eq_ok.mpr hy),
    bind_of_ok (liftShape_eq_ok.mpr hsize)]
  dsimp only
  rw [bind_of_ok (liftM_eq_ok.mpr hcentreX), bind_of_ok (liftM_eq_ok.mpr hcentreY),
    bind_of_ok (liftShape_eq_ok.mpr hp)]
  rfl

end Beam

end PixelTelescope
