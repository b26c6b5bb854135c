import PixelTelescope.Gear.Export
import PixelTelescope.Proofs.Assignment.Apart

namespace PixelTelescope

namespace Geometry.Registry

variable {α : Type} {detectors : List (Detector α)} {field : MagneticField α} {r : Registry α}

theorem firstRepeated?_eq_none {seen names : List String} :
    firstRepeated? seen names = none ↔ names.Nodup ∧ ∀ name ∈ names, name ∉ seen := by
  induction names generalizing seen with
  | nil => simp [firstRepeated?]
  | cons name rest ih =>
    rw [firstRepeated?]
    by_cases hmem : name ∈ seen
    · simp [hmem]
    · rw [if_neg (by simpa using hmem), ih, List.nodup_cons]
      grind

theorem ofDetectors_eq_ok :
    ofDetectors detectors field = .ok r ↔ r = ⟨detectors, field⟩ ∧ r.names.Nodup := by
  unfold ofDetectors
  cases h : firstRepeated? [] (detectors.map (·.name)) with
  | some name =>
    have hnodup : ¬ (detectors.map (·.name)).Nodup := fun hnodup => by
      rw [firstRepeated?_eq_none.mpr ⟨hnodup, by simp⟩] at h
      contradiction
    constructor
    · intro h
      contradiction
    · rintro ⟨rfl, h⟩
      exact absurd h hnodup
  | none =>
    have hnodup := (firstRepeated?_eq_none.mp h).1
    constructor
    · intro h
      obtain rfl := Except.ok.inj h
      exact ⟨rfl, hnodup⟩
    · rintro ⟨rfl, -⟩
      rfl

end Geometry.Registry

namespace Geometry.Model

variable {α : Type} {m : Model α} {axis : Nat}

theorem pitch_ok {x : α} (h : m.pixelSize[axis]? = some x) : m.pitch axis = .ok x := by
  simp only [pitch, itemAt, h]
  rfl

theorem pixelCount_ok {n : Int} (h : m.pixels[axis]? = some n) : m.pixelCount axis = .ok n := by
  simp only [pixelCount, itemAt, h]
  rfl

theorem extent_ok [Scalar α] {n : Int} {x y : α} (hn : m.pixels[axis]? = some n)
    (hy : m.pixelSize[axis]? = some y) (hx : Scalar.ofInt? n = some x) :
    m.extent axis = .ok (x * y) := by
  rw [extent, bind_of_ok (pixelCount_ok hn), bind_of_ok (pitch_ok hy)]
  simp only [Scalar.ofInt, hx]
  rfl

end Geometry.Model

namespace Gear

open Geometry.Model (pitch_ok pixelCount_ok extent_ok)

variable {α : Type} {r : Geometry.Registry α} {d : Geometry.Detector α} {name : String} {id : Int}
  {ids : List (String × Int)} {doc : Document α}

structure Layer.StandsFor (l : Layer α) (name : String) (id : Int) : Prop where
  detector : l.detector = name
  ladder : l.ladder.id = id
  sensitive : l.sensitive.id = id

structure Shaped [Scalar α] (d : Geometry.Detector α) : Prop where
  position : ∃ x y z, d.position = .vector [x, y, z]
  orientation : ∃ m, Geometry.Mat3.ofTensor d.orientation = .ok m
  pixels : ∃ columns rows, d.model.pixels = [columns, rows] ∧
    (∃ x : α, Scalar.ofInt? columns = some x) ∧ ∃ y : α, Scalar.ofInt? rows = some y
  pitch : ∃ x y, d.model.pixelSize = [x, y]

/-- A telescope that can be told: a field that is told has three components. -/
structure Tellable [Scalar α] (r : Geometry.Registry α) : Prop where
  detectors : ∀ d ∈ r.detectors, Shaped d
  field : r.field.kind = .constant → ∃ x y z, r.field.base = .vector [x, y, z]

variable [Scalar α]

/-- Wherever it stands, a layer has the ID that it was given, and a ladder turned against the
orientation of its detector. -/
theorem placed_parts {layer : Geometry.Vec3 α → Layer α} (h : Layer.placed d id = .ok layer) :
    ∃ m, Geometry.Mat3.ofTensor d.orientation = .ok m ∧
      ∀ position, (layer position).StandsFor d.name id ∧ (layer position).ladder.rotation =
        outwardVec ((Geometry.rotationAngles m).map (-·)) .deg := by
  obtain ⟨m, hm, h⟩ := bind_eq_ok.mp h
  obtain ⟨pitchX, -, h⟩ := bind_eq_ok.mp h
  obtain ⟨pitchY, -, h⟩ := bind_eq_ok.mp h
  obtain ⟨size, -, h⟩ := bind_eq_ok.mp h
  obtain ⟨extent, -, h⟩ := bind_eq_ok.mp h
  obtain ⟨columns, -, h⟩ := bind_eq_ok.mp h
  obtain ⟨rows, -, h⟩ := bind_eq_ok.mp h
  obtain rfl := Except.ok.inj h
  exact ⟨m, hm, fun position => ⟨⟨rfl, rfl, rfl⟩, rfl⟩⟩

/-- A document tells its field, and one layer for each detector, in their order. -/
theorem ofRegistry_parts (h : (Document.ofRegistry name ids r).result = .ok doc) :
    fieldVector r = .ok doc.field ∧
      List.Forall₂ (fun d l => ∃ layer list position,
        Layer.placed d.1 (layerId ids d.1.name d.2) = .ok layer ∧
        coordinates d.1.position .mm = .ok list ∧
        vectorOr .missingIndex list = .ok position ∧ l = layer position)
      r.detectors.zipIdx doc.layers := by
  unfold Document.ofRegistry at h
  cases hparts : parts ids r with
  | error f =>
    rw [hparts] at h
    contradiction
  | ok list =>
    rw [hparts] at h
    obtain ⟨field, hfield, h⟩ := bind_eq_ok.mp h
    obtain ⟨layers, hlayers, h⟩ := bind_eq_ok.mp h
    obtain rfl := Except.ok.inj h
    refine ⟨hfield, (forall₂_comp (mapM_eq_ok.mp hparts) (mapM_eq_ok.mp hlayers)).imp ?_⟩
    rintro ⟨d, place⟩ l ⟨part, hpart, hl⟩
    obtain ⟨position, hposition, hpart⟩ := bind_eq_ok.mp hpart
    obtain ⟨layer, hlayer, hpart⟩ := bind_eq_ok.mp hpart
    obtain rfl := Except.ok.inj hpart
    obtain ⟨v, hv, hl⟩ := bind_eq_ok.mp hl
    obtain rfl := Except.ok.inj hl
    exact ⟨layer, position, v, hlayer, hposition, liftShape_eq_ok.mp hv, rfl⟩

theorem ofRegistry_placed (h : (Document.ofRegistry name ids r).result = .ok doc) :
    List.Forall₂ (fun d l => ∃ id layer list position, Layer.placed d id = .ok layer ∧
        coordinates d.position .mm = .ok list ∧
        vectorOr .missingIndex list = .ok position ∧ l = layer position)
      r.detectors doc.layers := by
  rw [← List.zipIdx_map_fst 0 r.detectors, List.forall₂_map_left_iff]
  refine (ofRegistry_parts h).2.imp ?_
  rintro d l ⟨layer, list, position, hl⟩
  exact ⟨_, layer, list, position, hl⟩

theorem ofRegistry_layers (h : (Document.ofRegistry name ids r).result = .ok doc) :
    List.Forall₂ (fun d l => l.StandsFor d.1.name (layerId ids d.1.name d.2))
      r.detectors.zipIdx doc.layers := by
  refine (ofRegistry_parts h).2.imp ?_
  rintro d l ⟨layer, list, position, hlayer, -, -, rfl⟩
  obtain ⟨m, -, hparts⟩ := placed_parts hlayer
  exact (hparts position).1

/-- The place of a detector is not asked for where it has a sensor ID. -/
theorem layerId_of_assigned {a : Assignment} (h : a.sensorIdFor name = .ok id) (place : Nat) :
    layerId a.sensorIds name place = id := by
  rw [layerId, Assignment.sensorIdFor_ok.mp h, Option.getD_some]

theorem coordinates_vector (x y z : α) (unit : Measure) :
    coordinates (.vector [x, y, z]) unit =
      .ok [unit.outward x, unit.outward y, unit.outward z] := rfl

/-- The layer of a detector whose arrays have their shapes, part by part. -/
theorem placed_eq {m : Geometry.Mat3 α} {columns rows : Int} {x y px py : α}
    (hm : Geometry.Mat3.ofTensor d.orientation = .ok m) (hpixels : d.model.pixels = [columns, rows])
    (hx : Scalar.ofInt? columns = some x) (hy : Scalar.ofInt? rows = some y)
    (hpitch : d.model.pixelSize = [px, py]) (id : Int) :
    Layer.placed d id = .ok fun position => {
      detector := d.name
      type := d.model.type
      ladder := {
        id, position
        rotation := outwardVec ((Geometry.rotationAngles m).map (-·)) .deg
        size := outwardVec ⟨x * px + 2.0 * d.model.excess, y * py + 2.0 * d.model.excess,
          d.model.thickness + d.model.chip⟩ .mm
        radiationLength := siliconLength }
      sensitive := {
        id, position, columns, rows
        size := outwardVec ⟨x * px, y * py, d.model.thickness⟩ .mm
        pitchX := Measure.mm.outward px
        pitchY := Measure.mm.outward py
        resolution := Measure.mm.outward (px / Scalar.sqrt 12.0)
        rotation := (1.0, 0.0, 0.0, 1.0)
        radiationLength := siliconLength } } := by
  have hc₀ : d.model.pixels[0]? = some columns := by rw [hpixels]; rfl
  have hc₁ : d.model.pixels[1]? = some rows := by rw [hpixels]; rfl
  have hp₀ : d.model.pixelSize[0]? = some px := by rw [hpitch]; rfl
  have hp₁ : d.model.pixelSize[1]? = some py := by rw [hpitch]; rfl
  have hmatrix : d.model.matrixSize = .ok (x * px, y * py) := by
    rw [Geometry.Model.matrixSize, bind_of_ok (extent_ok hc₀ hp₀ hx),
      bind_of_ok (extent_ok hc₁ hp₁ hy)]
    rfl
  have hsize : d.model.size = .ok ⟨x * px + 2.0 * d.model.excess, y * py + 2.0 * d.model.excess,
      d.model.thickness + d.model.chip⟩ := by
    rw [Geometry.Model.size, Geometry.Model.sensorSize, bind_of_ok hmatrix]
    rfl
  rw [Layer.placed, bind_of_ok hm, bind_of_ok (pitch_ok hp₀), bind_of_ok (pitch_ok hp₁),
    bind_of_ok hsize, bind_of_ok hmatrix]
  dsimp only
  rw [bind_of_ok (pixelCount_ok hc₀), bind_of_ok (pixelCount_ok hc₁)]
  rfl

theorem Shaped.placed (h : Shaped d) (id : Int) : ∃ layer, Layer.placed d id = .ok layer := by
  obtain ⟨m, hm⟩ := h.orientation
  obtain ⟨columns, rows, hpixels, ⟨x, hx⟩, y, hy⟩ := h.pixels
  obtain ⟨px, py, hpitch⟩ := h.pitch
  exact ⟨_, placed_eq hm hpixels hx hy hpitch id⟩

theorem fieldVector_constant {x y z : α} (hkind : r.field.kind = .constant)
    (hbase : r.field.base = .vector [x, y, z]) :
    fieldVector r = .ok ⟨Measure.T.outward x, Measure.T.outward y, Measure.T.outward z⟩ := by
  have hvalue : r.field.valueAt (.zeros [3]) = .ok (.vector [x, y, z]) := by
    simp only [Geometry.MagneticField.valueAt, hkind, hbase]
    rfl
  rw [fieldVector, hkind]
  dsimp only
  rw [bind_of_ok hvalue, bind_of_ok (coordinates_vector x y z .T)]
  rfl

theorem fieldVector_other (hkind : r.field.kind ≠ .constant) :
    fieldVector r = .ok ⟨0.0, 0.0, 0.0⟩ := by
  unfold fieldVector
  split
  · contradiction
  · rfl

theorem Tellable.fieldVector (h : Tellable r) : ∃ v, fieldVector r = .ok v := by
  by_cases hkind : r.field.kind = .constant
  · obtain ⟨x, y, z, hbase⟩ := h.field hkind
    exact ⟨_, fieldVector_constant hkind hbase⟩
  · exact ⟨_, fieldVector_other hkind⟩

/-- A telescope whose arrays have their shapes has a document. -/
theorem Tellable.document (h : Tellable r) (name : String) (ids : List (String × Int)) :
    ∃ doc, (Document.ofRegistry name ids r).result = .ok doc := by
  obtain ⟨list, hlist, hall⟩ : ∃ list, parts ids r = .ok list ∧
      List.Forall₂ (fun _ (part : Part α) => ∃ x y z, part.1 = [x, y, z]) r.detectors.zipIdx
        list := by
    refine exists_mapM_ok ?_
    rintro ⟨d, place⟩ hmem
    have hd := h.detectors d (List.mem_of_getElem? (List.mem_zipIdx_iff_getElem?.mp hmem))
    obtain ⟨x, y, z, hposition⟩ := hd.position
    obtain ⟨layer, hlayer⟩ := hd.placed (layerId ids d.name place)
    refine ⟨([Measure.mm.outward x, Measure.mm.outward y, Measure.mm.outward z], layer), ?_,
      _, _, _, rfl⟩
    dsimp only
    rw [hposition, bind_of_ok (coordinates_vector x y z .mm), bind_of_ok hlayer]
    rfl
  obtain ⟨field, hfield⟩ := h.fieldVector
  obtain ⟨layers, hlayers, -⟩ : ∃ layers, (list.mapM fun (part : Part α) => do
      return part.2 (← vectorOr .missingIndex part.1)) = (.ok layers : Except Failure _) ∧
      List.Forall₂ (fun _ _ => True) list layers := by
    refine exists_mapM_ok fun part hpart => ?_
    obtain ⟨-, -, x, y, z, hcoordinates⟩ := exists_of_mem_right hall hpart
    rw [hcoordinates]
    exact ⟨_, rfl, trivial⟩
  refine ⟨⟨name, field, layers⟩, ?_⟩
  simp only [Document.ofRegistry, hlist]
  rw [Document.finish, bind_of_ok hfield, bind_of_ok hlayers]
  rfl

end Gear

end PixelTelescope
