import PixelTelescope.Proofs.Geometry.Angles
import PixelTelescope.Proofs.Gear.Layers

namespace PixelTelescope.Gear

open PixelTelescope.Geometry (Vec3 Mat3 Recovers rotationAngles rotationMatrix)

variable {α : Type} {r : Geometry.Registry α} {name : String} {ids : List (String × Int)}
  {doc : Document α}

/-- The angles of a ladder are those of the orientation, the other way round. -/
theorem ofRegistry_rotations [Scalar α]
    (h : (Document.ofRegistry name ids r).result = .ok doc) :
    List.Forall₂ (fun d l => ∃ m, Mat3.ofTensor d.orientation = .ok m ∧
      l.ladder.rotation = outwardVec ((rotationAngles m).map (-·)) .deg)
      r.detectors doc.layers := by
  refine (ofRegistry_placed h).imp ?_
  rintro d l ⟨id, layer, list, position, hlayer, -, -, rfl⟩
  obtain ⟨m, hm, hparts⟩ := placed_parts hlayer
  exact ⟨m, hm, (hparts position).2⟩

noncomputable def Ladder.turnedBack (l : Ladder ℝ) : Vec3 ℝ :=
  l.rotation.map fun x => Measure.deg.inward (-x)

theorem inward_neg_outward (x : ℝ) : Measure.deg.inward (-Measure.deg.outward (-x)) = x := by
  have hdeg : (Measure.deg.factor : ℝ) ≠ 0 :=
    div_ne_zero Real.pi_ne_zero (by norm_num)
  rw [Measure.inward, Measure.outward]
  field_simp

/-- A rotation can be rebuilt from its angles, and from the angles that its ladder is given. -/
theorem rotation_recovered {m : Mat3 ℝ} (horthogonal : m.multiply m.transpose = Mat3.identity)
    (hdeterminant : m.determinant = 1) :
    Recovers (rotationAngles m) m ∧
      ∀ name ids r doc, (Document.ofRegistry name ids r).result = .ok doc →
        List.Forall₂ (fun d l => d.orientation = m.toTensor → Recovers l.ladder.turnedBack m)
          r.detectors doc.layers := by
  have hrecovers := Mat3.Proper.recovers ⟨horthogonal, hdeterminant⟩
  refine ⟨hrecovers, fun name ids r doc h => (ofRegistry_rotations h).imp ?_⟩
  rintro d l ⟨m', hm', hrotation⟩ horientation
  rw [horientation] at hm'
  obtain rfl : m = m' := Except.ok.inj hm'
  have hback : l.ladder.turnedBack = rotationAngles m := by
    simp only [Ladder.turnedBack, hrotation, outwardVec, Vec3.map, inward_neg_outward]
  rw [hback]
  exact hrecovers

/-- The first axis is turned into the third, so that the first angle and the last turn about one
axis. -/
noncomputable def lockedTurn : Mat3 ℝ := ⟨⟨0, -(3 / 5), 4 / 5⟩, ⟨0, 4 / 5, 3 / 5⟩, ⟨-1, 0, 0⟩⟩

noncomputable def lockedTelescope : Geometry.Registry ℝ where
  detectors := [{
    name := "tilted", position := .vector [1, 2, 3], orientation := lockedTurn.toTensor
    model := { type := "sensor", pixels := [2, 3], pixelSize := [1, 1], thickness := 1,
               excess := 0, chip := 0 } }]
  field := .absent

theorem lockedTelescope_tellable : Tellable lockedTelescope where
  detectors := by
    intro d hd
    obtain rfl := List.mem_singleton.mp hd
    exact ⟨⟨1, 2, 3, rfl⟩, ⟨lockedTurn, rfl⟩, ⟨2, 3, rfl, ⟨_, rfl⟩, ⟨_, rfl⟩⟩, ⟨1, 1, rfl⟩⟩
  field := by
    intro h
    contradiction

theorem rotation_recovered_locked :
    lockedTurn.multiply lockedTurn.transpose = Mat3.identity ∧ lockedTurn.determinant = 1 ∧
      (rotationAngles lockedTurn).x = 0 ∧
      ∃ doc l, (Document.ofRegistry "telescope" [] lockedTelescope).result = .ok doc ∧
        doc.layers = [l] ∧
        ∀ v ∈ [rotationAngles lockedTurn, l.ladder.turnedBack],
          rotationMatrix v.x v.y v.z = lockedTurn := by
  have horthogonal : lockedTurn.multiply lockedTurn.transpose = Mat3.identity := by
    simp only [lockedTurn, Mat3.multiply, Mat3.apply, Mat3.transpose, Vec3.dot, Mat3.identity,
      Scalar.zero_real, Scalar.one_real]
    norm_num
  have hdeterminant : lockedTurn.determinant = 1 := by
    simp only [lockedTurn, Mat3.determinant]
    norm_num
  have hlocked : Scalar.hypot lockedTurn.a.x lockedTurn.b.x = 0 := by simp [lockedTurn]
  obtain ⟨doc, hdoc⟩ := lockedTelescope_tellable.document "telescope" []
  obtain ⟨hrecovers, hladders⟩ := rotation_recovered horthogonal hdeterminant
  obtain ⟨l, rest, hl, hrest, hlayers⟩ :=
    List.forall₂_cons_left_iff.mp (hladders _ _ _ doc hdoc)
  obtain rfl := List.forall₂_nil_left_iff.mp hrest
  refine ⟨horthogonal, hdeterminant, by norm_num [rotationAngles, lockedTurn], doc, l, hdoc,
    hlayers, fun v hv => ?_⟩
  rcases List.mem_pair.mp hv with rfl | rfl
  · exact hrecovers.exact (.inl hlocked)
  · exact (hl rfl).exact (.inl hlocked)

end PixelTelescope.Gear
