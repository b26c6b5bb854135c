import PixelTelescope.Geometry.Detector
import PixelTelescope.Geometry.Field

namespace PixelTelescope.Geometry

/-- The detectors in order, no two of one name, and the field around them. -/
structure Registry (α : Type) where
  detectors : List (Detector α)
  field : MagneticField α

namespace Registry

variable {α : Type}

def firstRepeated? : List String → List String → Option String
  | _, [] => none
  | seen, name :: rest =>
    if seen.contains name then some name else firstRepeated? (name :: seen) rest

def ofDetectors (detectors : List (Detector α)) (field : MagneticField α) :
    Except Failure (Registry α) :=
  match firstRepeated? [] (detectors.map (·.name)) with
  | some name => .error (.configuration (.duplicateDetector name))
  | none => .ok ⟨detectors, field⟩

def names (r : Registry α) : List String := r.detectors.map (·.name)

def get (r : Registry α) (name : String) : Except Failure (Detector α) :=
  match r.detectors.find? (·.name = name) with
  | some d => .ok d
  | none => .error .noDetector

end Registry

end PixelTelescope.Geometry
