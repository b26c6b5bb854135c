import PixelTelescope.Geometry.Registry
import PixelTelescope.Keyed
import PixelTelescope.Log
import PixelTelescope.Units

namespace PixelTelescope.Gear

open PixelTelescope.Geometry (Vec3)

variable {α : Type}

/-- The support of a sensor with its outer size; lengths are in mm, angles in deg. -/
structure Ladder (α : Type) where
  id : Int
  position : Vec3 α
  /-- The angles in the planes ZY, ZX and XY. -/
  rotation : Vec3 α
  size : Vec3 α
  radiationLength : α

/-- The part of a sensor that sees particles. -/
structure Sensitive (α : Type) where
  id : Int
  position : Vec3 α
  size : Vec3 α
  columns : Int
  rows : Int
  pitchX : α
  pitchY : α
  /-- The spread of hits that fall on one pixel evenly. -/
  resolution : α
  /-- How the axes of the pixels lie on the ladder: a matrix, row by row. -/
  rotation : α × α × α × α
  radiationLength : α

structure Layer (α : Type) where
  detector : String
  type : String
  ladder : Ladder α
  sensitive : Sensitive α

/-- The telescope as the geometry file tells it; the field is in T. -/
structure Document (α : Type) where
  detectorName : String
  field : Vec3 α
  layers : List (Layer α)

/-- The first three entries in a unit, as many as there are. -/
def coordinates [Scalar α] (t : Tensor α) (unit : Measure) : Except Failure (List α) :=
  (t.rows.take 3).mapM fun row => do return unit.outward (← row.single?)

def outwardVec [Scalar α] (v : Vec3 α) (unit : Measure) : Vec3 α := v.map unit.outward

/-- Three coordinates; fewer are refused for the reason given. -/
def vectorOr (fault : ShapeFault) : List α → Except ShapeFault (Vec3 α)
  | [x, y, z] => .ok ⟨x, y, z⟩
  | _ => .error fault

variable [Scalar α]

/-- How far a particle flies through silicon before it has lost most of its energy, in mm. -/
def siliconLength : α := 93.65

/-- A layer that lacks nothing but its position. -/
def Layer.placed (d : Geometry.Detector α) (id : Int) : Except Failure (Vec3 α → Layer α) := do
  let angles := Geometry.rotationAngles (← Geometry.Mat3.ofTensor d.orientation)
  let pitchX ← d.model.pitch 0
  let pitchY ← d.model.pitch 1
  let size ← d.model.size
  let (width, height) ← d.model.matrixSize
  let columns ← d.model.pixelCount 0
  let rows ← d.model.pixelCount 1
  return fun position => {
    detector := d.name
    type := d.model.type
    ladder := {
      id, position
      rotation := outwardVec (angles.map (-·)) .deg
      size := outwardVec size .mm
      radiationLength := siliconLength }
    sensitive := {
      id, position, columns, rows
      size := outwardVec ⟨width, height, d.model.thickness⟩ .mm
      pitchX := Measure.mm.outward pitchX
      pitchY := Measure.mm.outward pitchY
      resolution := Measure.mm.outward (pitchX / Scalar.sqrt 12.0)
      rotation := (1.0, 0.0, 0.0, 1.0)
      radiationLength := siliconLength } }

/-- The ID of a detector, or its place among the layers where none is given. -/
def layerId (ids : List (String × Int)) (name : String) (place : Nat) : Int :=
  (Keyed.get? name ids).getD place

/-- Only a constant field can be told; any other is told as none. -/
def fieldVector (r : Geometry.Registry α) : Except Failure (Vec3 α) := do
  match r.field.kind with
  | .constant =>
    let base ← r.field.valueAt (.zeros [3])
    return ← vectorOr .mismatched (← coordinates base .T)
  | _ => return ⟨0.0, 0.0, 0.0⟩

def fieldNotice (kind : Geometry.FieldKind) : List Entry :=
  match kind with
  | .none => []
  | .constant => []
  | kind =>
    [.warning ("Field type '" ++ kind.text ++
      "' not handled by GEAR geometry. Writing null magnetic field instead.")]

/-- A position with the layer that it completes. -/
abbrev Part (α : Type) := List α × (Vec3 α → Layer α)

def parts (ids : List (String × Int)) (r : Geometry.Registry α) :
    Except Failure (List (Part α)) :=
  r.detectors.zipIdx.mapM fun (d, place) => do
    let position ← coordinates d.position .mm
    return (position, ← Layer.placed d (layerId ids d.name place))

/-- One layer for each detector, in order; the field comes before positions that are too short. -/
def Document.finish (name : String) (r : Geometry.Registry α) (parts : List (Part α)) :
    Except Failure (Document α) := do
  let field ← fieldVector r
  let layers ← parts.mapM fun (position, layer) => do
    return layer (← vectorOr .missingIndex position)
  return ⟨name, field, layers⟩

/-- The document of a telescope, with the IDs that the event stream uses for its detectors. -/
def Document.ofRegistry (name : String) (ids : List (String × Int)) (r : Geometry.Registry α) :
    Logged (Except Failure (Document α)) :=
  match parts ids r with
  | .ok list => ⟨fieldNotice r.field.kind, Document.finish name r list⟩
  | .error fault => ⟨[], .error fault⟩

end PixelTelescope.Gear
