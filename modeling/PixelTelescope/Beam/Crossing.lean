import PixelTelescope.Event.Hit
import PixelTelescope.Geometry.Detector

namespace PixelTelescope.Beam

open PixelTelescope.Geometry (Model Detector)

/-- A straight track through the telescope. -/
structure Track (α : Type) where
  id : Nat
  /-- Where it crosses a matrix, as fractions of its columns and rows. -/
  u : α
  v : α
  time : α

variable {α : Type} [Scalar α]

/-- Keeps a number between zero and a greatest one. -/
def clamped (greatest x : α) : α :=
  let x := if Scalar.less x 0.0 then 0.0 else x
  if Scalar.less greatest x then greatest else x

/-- The pixel at a fraction of the pixels along an axis, off by a shift. -/
def pixelAt (pixels : Int) (fraction shift : α) : Except NumberFault Int := do
  let x := Scalar.floor (fraction * (← Scalar.ofInt pixels) + shift)
  Scalar.truncate (clamped (← Scalar.ofInt (pixels - 1)) x)

/-- The middle of a pixel, seen from the middle of its matrix. -/
def pixelCentre (pixels : Int) (pitch : α) (pixel : Int) : Except NumberFault α := do
  return ((← Scalar.ofInt pixel) + 0.5) * pitch - 0.5 * (← Scalar.ofInt pixels) * pitch

def pair {β : Type} : List β → Except ShapeFault (β × β)
  | [x, y] => .ok (x, y)
  | _ => .error .mismatched

/-- A point of a sensor in the coordinates of the telescope. -/
def outward (d : Detector α) (point : List α) : Except ShapeFault (Tensor α) := do
  d.position.add (← d.orientation.multiply (.vector point))

/-- The particle that goes straight through the middle of a pixel. -/
def particleAt (d : Detector α) (track : Nat) (x y : α) :
    Except ShapeFault (Event.Particle α) := do
  let half := 0.5 * d.model.thickness
  return {
    track
    pdg := 11
    entry := ← outward d [x, y, 0.0 - half]
    exit := ← outward d [x, y, 0.0 + half] }

/-- The hit of a track, with its shifts in pixels and its signal. -/
def hitOf (d : Detector α) (t : Track α) (shiftX shiftY signal : α) :
    Except Failure (Event.Hit α) := do
  let (columns, rows) ← pair d.model.pixels
  let column ← pixelAt columns t.u shiftX
  let row ← pixelAt rows t.v shiftY
  let (pitchX, pitchY) ← pair d.model.pixelSize
  let x ← pixelCentre columns pitchX column
  let y ← pixelCentre rows pitchY row
  let particle ← particleAt d t.id x y
  return {
    detector := d.name
    column := .whole column
    row := .whole row
    signal := .real signal
    time := .real t.time
    particles := [particle] }

end PixelTelescope.Beam
