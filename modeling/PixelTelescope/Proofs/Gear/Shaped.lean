import PixelTelescope.Proofs.Geometry.Orientation

namespace PixelTelescope.Gear

open Config (DetectorSection)
open PixelTelescope.Geometry (Detector Registry)

variable {α : Type} [Scalar α] {s : DetectorSection α} {d : Detector α}

def Countable (s : DetectorSection α) : Prop := ∀ n ∈ s.pixels, Scalar.ofInt? n ≠ (none : Option α)

/-- The matrix of a detector that was built. -/
theorem exists_matrix_of_built (hd : Detector.ofSection s = .ok d) :
    ∃ m, Geometry.Mat3.ofTensor d.orientation = .ok m := by
  rcases Detector.ofSection_cases s with
    ⟨d', m, hbuilt, hm⟩ | ⟨fault, hbuilt⟩ | ⟨rows, -, -, hbuilt⟩
  · obtain rfl := Except.ok.inj (hbuilt.symm.trans hd)
    exact ⟨m, hm ▸ m.ofTensor_toTensor⟩
  · cases hbuilt.symm.trans hd
  · cases hbuilt.symm.trans hd

theorem Countable.shaped (hs : Countable s) (h : s.Accepted) (hd : Detector.ofSection s = .ok d) :
    Shaped d := by
  obtain ⟨hmodel, hposition, -⟩ := Detector.ofSection_parts hd
  obtain ⟨x, y, z, hxyz⟩ := h.position
  obtain ⟨columns, rows, hpixels, -⟩ := h.pixels
  obtain ⟨px, py, hpixelSize⟩ := h.pixelSize
  refine ⟨⟨_, _, _, by rw [hposition, hxyz]; rfl⟩, exists_matrix_of_built hd,
    ⟨columns, rows, ?_, ?_, ?_⟩, ?_⟩
  · rw [hmodel, Geometry.Model.ofSection, hpixels]
  · exact Option.ne_none_iff_exists'.mp (hs columns (by simp [hpixels]))
  · exact Option.ne_none_iff_exists'.mp (hs rows (by simp [hpixels]))
  · rw [hmodel, Geometry.Model.ofSection, hpixelSize]
    exact ⟨_, _, rfl⟩

theorem matrixSize_uncountable {m : Geometry.Model α} {columns rows : Int} {px py : α}
    (hpixels : m.pixels = [columns, rows]) (hpitch : m.pixelSize = [px, py])
    (hn : ∃ n ∈ [columns, rows], Scalar.ofInt? n = (none : Option α)) :
    m.matrixSize = .error (.number .outOfRange) := by
  have hextent {axis : Nat} {n : Int} {x : α} (hn : m.pixels[axis]? = some n)
      (hx : m.pixelSize[axis]? = some x) (hnone : Scalar.ofInt? n = (none : Option α)) :
      m.extent axis = .error (.number .outOfRange) := by
    rw [Geometry.Model.extent, bind_of_ok (Geometry.Model.pixelCount_ok hn),
      bind_of_ok (Geometry.Model.pitch_ok hx)]
    simp only [Scalar.ofInt, hnone]
    rfl
  have hc₀ : m.pixels[0]? = some columns := by rw [hpixels]; rfl
  have hc₁ : m.pixels[1]? = some rows := by rw [hpixels]; rfl
  have hp₀ : m.pixelSize[0]? = some px := by rw [hpitch]; rfl
  have hp₁ : m.pixelSize[1]? = some py := by rw [hpitch]; rfl
  cases hcolumns : (Scalar.ofInt? columns : Option α) with
  | none =>
    rw [Geometry.Model.matrixSize, hextent hc₀ hp₀ hcolumns]
    rfl
  | some x =>
    have hrows : Scalar.ofInt? rows = (none : Option α) := by simpa [hcolumns] using hn
    rw [Geometry.Model.matrixSize, bind_of_ok (Geometry.Model.extent_ok hc₀ hp₀ hcolumns),
      hextent hc₁ hp₁ hrows]
    rfl

/-- The sizes of a layer are the first thing that needs the counts as numbers. -/
theorem placed_uncountable (hs : ¬ Countable s) (h : s.Accepted)
    (hd : Detector.ofSection s = .ok d) (id : Int) :
    Layer.placed d id = .error (.number .outOfRange) := by
  obtain ⟨hmodel, -⟩ := Detector.ofSection_parts hd
  obtain ⟨m, hm⟩ := exists_matrix_of_built hd
  obtain ⟨columns, rows, hpixels, -⟩ := h.pixels
  obtain ⟨px, py, hpixelSize⟩ := h.pixelSize
  have hcounts : d.model.pixels = [columns, rows] := by
    rw [hmodel, Geometry.Model.ofSection, hpixels]
  have hpitch : d.model.pixelSize = [Measure.um.inward px, Measure.um.inward py] := by
    rw [hmodel, Geometry.Model.ofSection, hpixelSize]
    rfl
  have hmatrix : d.model.matrixSize = .error (.number .outOfRange) := by
    have hn : ∃ n ∈ s.pixels, Scalar.ofInt? n = (none : Option α) := by
      simpa only [Countable, ne_eq, not_forall, not_not, exists_prop] using hs
    exact matrixSize_uncountable hcounts hpitch (hpixels ▸ hn)
  have hp₀ : d.model.pixelSize[0]? = some (Measure.um.inward px) := by rw [hpitch]; rfl
  have hp₁ : d.model.pixelSize[1]? = some (Measure.um.inward py) := by rw [hpitch]; rfl
  have hsize : d.model.size = .error (.number .outOfRange) := by
    rw [Geometry.Model.size, Geometry.Model.sensorSize, hmatrix]
    rfl
  rw [Layer.placed, bind_of_ok hm, bind_of_ok (Geometry.Model.pitch_ok hp₀),
    bind_of_ok (Geometry.Model.pitch_ok hp₁), hsize]
  rfl

def partOf (d : Detector α) (id : Int) : Except Failure (Part α) := do
  let position ← coordinates d.position .mm
  return (position, ← Layer.placed d id)

theorem parts_eq (ids : List (String × Int)) (r : Registry α) :
    parts ids r = r.detectors.zipIdx.mapM fun entry =>
      partOf entry.1 (layerId ids entry.1.name entry.2) := rfl

theorem partOf_cases (h : s.Accepted) (hd : Detector.ofSection s = .ok d) (id : Int) :
    (Countable s ∧ ∃ part, partOf d id = .ok part) ∨
      ¬ Countable s ∧ partOf d id = .error (.number .outOfRange) := by
  obtain ⟨position, hposition⟩ : ∃ list, coordinates d.position .mm = .ok list := by
    obtain ⟨x, y, z, hxyz⟩ := h.position
    rw [(Detector.ofSection_parts hd).2.1, hxyz]
    exact ⟨_, coordinates_vector _ _ _ _⟩
  rw [partOf, bind_of_ok hposition]
  by_cases hcount : Countable s
  · obtain ⟨layer, hlayer⟩ := (hcount.shaped h hd).placed id
    rw [hlayer]
    exact .inl ⟨hcount, _, rfl⟩
  · rw [placed_uncountable hcount h hd id]
    exact .inr ⟨hcount, rfl⟩

end PixelTelescope.Gear
