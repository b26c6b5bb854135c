import PixelTelescope.Config.Basic
import PixelTelescope.Geometry.Registry
import PixelTelescope.Units

namespace PixelTelescope.Geometry

variable {α : Type} [Scalar α]

/-- The orientation that angles in deg or a matrix give; a matrix has to be a proper rotation. -/
def orientationOf (o : Config.Orientation α) : Except Failure (Tensor α) := do
  let given ← match o with
    | .angles list => pure (.vector list)
    | .matrix rows => liftM (Tensor.ofRows rows)
  match given.sizes, given.entries with
  | [3], [a, b, c] =>
    return (rotationMatrix (Measure.deg.inward a) (Measure.deg.inward b)
      (Measure.deg.inward c)).toTensor
  | [3, 3], _ =>
    if isRotation 1e-6 (← Mat3.ofTensor given) then return given
    else .error (.configuration .improperRotation)
  | sizes, _ => .error (.configuration (.orientationShape sizes))

def Model.ofSection (s : Config.DetectorSection α) : Model α where
  type := s.type
  pixels := s.pixels
  pixelSize := s.pixelSize.map Measure.um.inward
  thickness := Measure.um.inward s.thickness
  excess := Measure.um.inward s.excess
  chip := Measure.um.inward s.chip

def Detector.ofSection (s : Config.DetectorSection α) : Except Failure (Detector α) := do
  return {
    name := s.name
    model := .ofSection s
    position := .vector (s.position.map Measure.mm.inward)
    orientation := ← orientationOf s.orientation }

def MagneticField.ofSection (s : Config.FieldSection α) : Except Failure (MagneticField α) := do
  if s.kind = .custom then .error (.configuration .customField)
  else
    let gradient ← match s.gradient with
      | none => pure none
      | some rows => do
        let given ← Tensor.ofRows rows
        pure (some (given.map fun x => Measure.T.inward x / Measure.mm.factor))
    return { kind := s.kind, base := .vector (s.vector.map Measure.T.inward), gradient }

/-- The telescope that the sections of a configuration describe. -/
def Registry.ofSections (detectors : List (Config.DetectorSection α))
    (field : Option (Config.FieldSection α)) : Except Failure (Registry α) := do
  let detectors ← detectors.mapM Detector.ofSection
  let field ← match field with
    | some s => MagneticField.ofSection s
    | none => pure .absent
  Registry.ofDetectors detectors field

end PixelTelescope.Geometry
