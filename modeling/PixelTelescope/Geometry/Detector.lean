import PixelTelescope.Geometry.Rotation

namespace PixelTelescope.Geometry

/-- A kind of pixel sensor; lengths are in mm. -/
structure Model (α : Type) where
  type : String
  /-- Columns and rows. -/
  pixels : List Int
  pixelSize : List α
  thickness : α
  /-- The margin on every side of the pixels. -/
  excess : α
  /-- The chip below the sensor. -/
  chip : α

def itemAt {β : Type} (items : List β) (i : Nat) : Except ShapeFault β :=
  match items[i]? with
  | some x => .ok x
  | none => .error .missingIndex

namespace Model

variable {α : Type} [Scalar α]

def pitch (m : Model α) (axis : Nat) : Except Failure α := return ← itemAt m.pixelSize axis

def pixelCount (m : Model α) (axis : Nat) : Except Failure Int := return ← itemAt m.pixels axis

/-- The length of the pixels along an axis. -/
def extent (m : Model α) (axis : Nat) : Except Failure α := do
  let count ← m.pixelCount axis
  let pitch ← m.pitch axis
  return (← Scalar.ofInt count) * pitch

def matrixSize (m : Model α) : Except Failure (α × α) := return (← m.extent 0, ← m.extent 1)

/-- The pixels with their margins, and the thickness. -/
def sensorSize (m : Model α) : Except Failure (Vec3 α) := do
  let (x, y) ← m.matrixSize
  return ⟨x + 2.0 * m.excess, y + 2.0 * m.excess, m.thickness⟩

/-- Sensor and chip together. -/
def size (m : Model α) : Except Failure (Vec3 α) := do
  let s ← m.sensorSize
  return { s with z := s.z + m.chip }

end Model

/-- A sensor in its place. The orientation turns its own coordinates into those of the telescope. -/
structure Detector (α : Type) where
  name : String
  model : Model α
  position : Tensor α
  orientation : Tensor α

end PixelTelescope.Geometry
