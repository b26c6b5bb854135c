import PixelTelescope.Proofs.Extended
import PixelTelescope.Proofs.Geometry.Angles
import PixelTelescope.Proofs.Geometry.Orientation

namespace PixelTelescope.Geometry

open Extended (real IsReal)

theorem rotationMatrix_proper (α β γ : ℝ) : (rotationMatrix α β γ).Proper := by
  have ha := Real.sin_sq_add_cos_sq α
  have hb := Real.sin_sq_add_cos_sq β
  have hg := Real.sin_sq_add_cos_sq γ
  rw [rotationMatrix_real]
  generalize Real.sin α = sa, Real.cos α = ca at *
  generalize Real.sin β = sb, Real.cos β = cb at *
  generalize Real.sin γ = sg, Real.cos γ = cg at *
  constructor
  · simp only [Mat3.multiply, Mat3.apply, Mat3.transpose, Vec3.dot, Mat3.identity,
      Scalar.zero_real, Scalar.one_real, Mat3.mk.injEq, Vec3.mk.injEq]
    refine ⟨⟨?_, ?_, ?_⟩, ⟨?_, ?_, ?_⟩, ⟨?_, ?_, ?_⟩⟩
    · linear_combination (cg ^ 2 * sb ^ 2 + sg ^ 2) * ha + cg ^ 2 * hb + hg
    · linear_combination cg * sg * (sb ^ 2 - 1) * ha + cg * sg * hb
    · linear_combination cg * sb * cb * ha
    · linear_combination cg * sg * (sb ^ 2 - 1) * ha + cg * sg * hb
    · linear_combination (sg ^ 2 * sb ^ 2 + cg ^ 2) * ha + sg ^ 2 * hb + hg
    · linear_combination sg * sb * cb * ha
    · linear_combination cg * sb * cb * ha
    · linear_combination sg * sb * cb * ha
    · linear_combination cb ^ 2 * ha + hb
  · simp only [Mat3.determinant]
    linear_combination (sb ^ 2 + cb ^ 2) * (sg ^ 2 + cg ^ 2) * ha + (sg ^ 2 + cg ^ 2) * hb + hg

theorem isNear_self {t : ℝ} (ht : 0 ≤ t) (x : ℝ) : isNear t x x = true := by
  have hbound : 0 ≤ t + 1e-5 * |x| := by positivity
  have hzero : Scalar.abs (x - x) = (0 : ℝ) := by
    rw [sub_self]
    exact abs_zero
  rw [isNear, hzero, Scalar.notMore, Bool.or_eq_true]
  rcases hbound.lt_or_eq with hlt | heq
  · exact .inl (decide_eq_true hlt)
  · exact .inr (decide_eq_true heq)

theorem Mat3.Proper.isRotation {m : Mat3 ℝ} (h : m.Proper) {t : ℝ} (ht : 0 ≤ t) :
    isRotation t m = true := by
  simp [Geometry.isRotation, h.orthogonal, h.determinant, isNear_self ht, Mat3.identity,
    Mat3.toLists, Vec3.toList]

def Mat3.extend (m : Mat3 ℝ) : Mat3 Extended := ⟨m.a.map real, m.b.map real, m.c.map real⟩

theorem rotationMatrix_extend (α β γ : ℝ) :
    rotationMatrix (real α) (real β) (real γ) = (rotationMatrix α β γ).extend := rfl

theorem isRotation_extend (t : ℝ) (m : Mat3 ℝ) :
    isRotation (real t) m.extend = isRotation t m := rfl

variable {t x y : Extended} {m : Mat3 Extended}

theorem isReal_of_isNear (ht : t.IsReal) (hy : y.IsReal) (h : isNear t x y = true) : x.IsReal := by
  obtain ⟨s, rfl⟩ := Extended.isReal_iff.mp ht
  obtain ⟨r, rfl⟩ := Extended.isReal_iff.mp hy
  cases x with
  | real x => exact Extended.isReal_real x
  | infinite n =>
    have hfar : isNear (real s) (.infinite n) (real r) = false := rfl
    cases hfar.symm.trans h
  | nan =>
    have hfar : isNear (real s) .nan (real r) = false := rfl
    cases hfar.symm.trans h

/-- Nothing but real numbers adds up to a determinant. -/
theorem isReal_determinant (h : m.determinant.IsReal) :
    (m.a.x.IsReal ∧ m.a.y.IsReal ∧ m.a.z.IsReal) ∧ (m.b.x.IsReal ∧ m.b.y.IsReal ∧ m.b.z.IsReal) ∧
      (m.c.x.IsReal ∧ m.c.y.IsReal ∧ m.c.z.IsReal) := by
  simp only [Mat3.determinant, Extended.isReal_add, Extended.isReal_sub, Extended.isReal_mul] at h
  tauto

theorem isReal_rotationMatrix {α β γ : Extended}
    (h : (rotationMatrix α β γ).determinant.IsReal) : α.IsReal ∧ β.IsReal ∧ γ.IsReal := by
  -- the last two angles are in the first entry, and the first one is in the second
  obtain ⟨⟨hx, hy, -⟩, -⟩ := isReal_determinant h
  simp only [rotationMatrix, Mat3.multiply, Mat3.apply, Vec3.dot, Mat3.transpose,
    Extended.isReal_add, Extended.isReal_mul, Extended.isReal_neg, Extended.isReal_cos,
    Extended.isReal_sin, Extended.isReal_numeral, true_and, and_true, and_self] at hx hy
  tauto

/-- Angles among the extended numbers give a rotation where all three are real. -/
theorem isRotation_rotationMatrix (α β γ : Extended) :
    isRotation 1e-6 (rotationMatrix α β γ) = true ↔ α.IsReal ∧ β.IsReal ∧ γ.IsReal := by
  constructor
  · intro h
    rw [isRotation, Bool.and_eq_true] at h
    exact isReal_rotationMatrix (isReal_of_isNear (Extended.isReal_numeral ..)
      (Extended.isReal_numeral ..) h.2)
  · rintro ⟨hα, hβ, hγ⟩
    obtain ⟨a, rfl⟩ := Extended.isReal_iff.mp hα
    obtain ⟨b, rfl⟩ := Extended.isReal_iff.mp hβ
    obtain ⟨c, rfl⟩ := Extended.isReal_iff.mp hγ
    rw [rotationMatrix_extend, Extended.real_numeral, isRotation_extend]
    exact (rotationMatrix_proper a b c).isRotation (by norm_num)

open Config (DetectorSection FieldSection)

/-- A detector whose orientation is a rotation, up to what a configured matrix may be off by. -/
def Detector.Upright {α : Type} [Scalar α] (d : Detector α) : Prop :=
  ∃ m, d.orientation = m.toTensor ∧ isRotation 1e-6 m = true

/-- What a configured orientation comes to: a matrix stays as it is and has been looked at, and
angles in deg have been turned into one. -/
structure Detector.Follows {α : Type} [Scalar α] (d : Detector α) (o : Config.Orientation α) :
    Prop where
  matrix : ∀ rows, o = .matrix rows → ∃ m, rows = m.toLists ∧ d.orientation = m.toTensor ∧
    isRotation 1e-6 m = true
  angles : ∀ list, o = .angles list → ∃ a b c, list = [a, b, c] ∧
    d.orientation = (rotationMatrix (Measure.deg.inward a) (Measure.deg.inward b)
      (Measure.deg.inward c)).toTensor

theorem ofSection_follows {α : Type} [Scalar α] {s : DetectorSection α} {d : Detector α}
    (h : Detector.ofSection s = .ok d) : d.Follows s.orientation := by
  obtain ⟨-, -, ht⟩ := Detector.ofSection_parts h
  constructor
  · intro rows hs
    rw [hs] at ht
    rcases orientationOf_matrix rows with ⟨m, hm, hproper, hrows⟩ | ⟨fault, hrows⟩ | ⟨-, hrows⟩
    · exact ⟨m, hm, Except.ok.inj (ht.symm.trans hrows), hproper⟩
    · cases hrows.symm.trans ht
    · cases hrows.symm.trans ht
  · intro list hs
    rw [hs] at ht
    rcases orientationOf_angles list with ⟨a, b, c, rfl, hlist⟩ | hlist
    · exact ⟨a, b, c, rfl, Except.ok.inj (ht.symm.trans hlist)⟩
    · cases hlist.symm.trans ht

theorem Mat3.toTensor_injective {α : Type} {m n : Mat3 α} (h : m.toTensor = n.toTensor) :
    m = n := by
  have hm := m.ofTensor_toTensor
  rw [h, Mat3.ofTensor_toTensor] at hm
  exact (Except.ok.inj hm).symm

theorem isReal_inward_deg {x : Extended} : (Measure.deg.inward x).IsReal ↔ x.IsReal := by
  have hfactor : (Measure.deg.factor : Extended).IsReal := by
    rw [Measure.factor, Extended.real_numeral, Extended.pi_eq, Extended.real_div _ (by norm_num)]
    exact Extended.isReal_real _
  rw [Measure.inward, Extended.isReal_mul, and_iff_left hfactor]

/-- Angles are not looked at: only real ones turn to a rotation. -/
theorem Detector.Follows.upright_iff {d : Detector Extended} {o : Config.Orientation Extended}
    (h : d.Follows o) : d.Upright ↔ ∀ list, o = .angles list → ∀ x ∈ list, x.IsReal := by
  cases o with
  | matrix rows =>
    obtain ⟨m, -, hm, hproper⟩ := h.matrix rows rfl
    have hupright : d.Upright := ⟨m, hm, hproper⟩
    simp [hupright]
  | angles list =>
    obtain ⟨a, b, c, rfl, hd⟩ := h.angles list rfl
    have hupright : d.Upright ↔ isRotation 1e-6 (rotationMatrix (Measure.deg.inward a)
        (Measure.deg.inward b) (Measure.deg.inward c)) = true := by
      constructor
      · rintro ⟨m, hm, hproper⟩
        rwa [Mat3.toTensor_injective (hd.symm.trans hm)]
      · intro hproper
        exact ⟨_, hd, hproper⟩
    rw [hupright, isRotation_rotationMatrix, isReal_inward_deg, isReal_inward_deg,
      isReal_inward_deg]
    simp

theorem ofSections_follows {α : Type} [Scalar α] {sections : List (DetectorSection α)}
    {field : Option (FieldSection α)} {r : Registry α}
    (h : Registry.ofSections sections field = .ok r) :
    List.Forall₂ (fun s d => d.Follows s.orientation) sections r.detectors :=
  (Registry.ofSections_parts h).1.imp fun _ _ => ofSection_follows

/-- A configured orientation enters the telescope as a rotation where it is a matrix or its angles
are real; an infinite angle, or one that is no number, enters too, and no rotation comes of it.
Whatever the numbers are, a matrix enters as it is, and as a rotation, or not at all, and angles
enter as what they turn to. -/
theorem configured_orientations_proper {sections : List (DetectorSection Extended)}
    {field : Option (FieldSection Extended)} {r : Registry Extended}
    (h : Registry.ofSections sections field = .ok r) :
    List.Forall₂ (fun s d => d.Upright ↔
      ∀ list, s.orientation = .angles list → ∀ x ∈ list, x.IsReal) sections r.detectors ∧
    ∀ {α : Type} [Scalar α] (others : List (DetectorSection α)) (field : Option (FieldSection α))
      (q : Registry α), Registry.ofSections others field = .ok q →
      List.Forall₂ (fun s d => d.Follows s.orientation) others q.detectors := by
  refine ⟨(ofSections_follows h).imp fun s d hd => hd.upright_iff, ?_⟩
  intro α _ others field q hq
  exact ofSections_follows hq

noncomputable def sectionTurned (o : Config.Orientation Extended) : DetectorSection Extended where
  name := "plane"
  type := "sensor"
  position := [real 0, real 0, real 0]
  orientation := o
  pixels := [1152, 576]
  pixelSize := [real 1, real 1]
  thickness := real 1
  excess := real 0
  chip := real 0

theorem configured_orientations_proper_angles :
    ∃ r d, Registry.ofSections [sectionTurned (.angles [real 90, real 0, real (-45)])] none =
      .ok r ∧ r.detectors = [d] ∧ d.Upright := by
  have hr : Registry.ofSections [sectionTurned (.angles [real 90, real 0, real (-45)])] none =
      .ok _ := rfl
  obtain ⟨d, rest, hd, hrest, hdetectors⟩ :=
    List.forall₂_cons_left_iff.mp (configured_orientations_proper hr).1
  obtain rfl := List.forall₂_nil_left_iff.mp hrest
  refine ⟨_, d, hr, hdetectors, hd.mpr ?_⟩
  intro list hlist
  obtain rfl := Config.Orientation.angles.inj hlist
  simp

/-- A first angle that is no number enters the telescope. -/
theorem angle_without_value_enters :
    ∃ r d, Registry.ofSections [sectionTurned (.angles [.nan, real 0, real 0])] none = .ok r ∧
      r.detectors = [d] ∧ ¬ d.Upright := by
  have hr : Registry.ofSections [sectionTurned (.angles [.nan, real 0, real 0])] none =
      .ok _ := rfl
  obtain ⟨d, rest, hd, hrest, hdetectors⟩ :=
    List.forall₂_cons_left_iff.mp (ofSections_follows hr)
  obtain rfl := List.forall₂_nil_left_iff.mp hrest
  refine ⟨_, d, hr, hdetectors, fun hupright => ?_⟩
  have hreal := hd.upright_iff.mp hupright _ rfl .nan (by simp)
  exact Extended.not_isReal_nan hreal

end PixelTelescope.Geometry
