import PixelTelescope.Geometry.FieldKind
import PixelTelescope.Tensor.Basic

namespace PixelTelescope.Geometry

/-- The magnetic field in internal units. -/
structure MagneticField (α : Type) where
  kind : FieldKind
  base : Tensor α
  gradient : Option (Tensor α) := none
  function : Option (Tensor α → Except Failure (Tensor α)) := none

namespace MagneticField

variable {α : Type} [Scalar α]

def absent : MagneticField α := { kind := .none, base := .zeros [3] }

/-- The field at a point: a linear one adds the gradient times the point to its base. -/
def valueAt (b : MagneticField α) (point : Tensor α) : Except Failure (Tensor α) := do
  match b.kind with
  | .none => return .zeros [3]
  | .constant => return b.base
  | .linear => do
    let change ← (b.gradient.getD (.zeros [3, 3])).multiply point
    return ← b.base.add change
  | .custom =>
    match b.function with
    | some f => f point
    | none => .error .noFieldFunction

end MagneticField

end PixelTelescope.Geometry
