import PixelTelescope.Tensor.Basic

namespace PixelTelescope.Event

/-- A simulated particle behind a hit, with the points at which it enters and leaves the sensor. -/
structure Particle (α : Type) where
  track : Int
  pdg : Int := 0
  entry : Tensor α
  exit : Tensor α

/-- A fired pixel. -/
structure Hit (α : Type) where
  detector : String
  column : Reading α
  row : Reading α
  signal : Reading α
  time : Reading α
  particles : List (Particle α) := []

/-- The hits that one detector delivers for one event. -/
structure Message (α : Type) where
  detector : String
  hits : List (Hit α) := []

/-- The point in the middle of a particle's way, as far as its points have coordinates. -/
def Particle.midpoint {α : Type} [Scalar α] (p : Particle α) : Except ShapeFault (Tensor α) := do
  return (← p.entry.add p.exit).map (0.5 * ·)

end PixelTelescope.Event
