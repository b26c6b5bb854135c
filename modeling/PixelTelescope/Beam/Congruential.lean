import PixelTelescope.Beam.Generator
import PixelTelescope.Bounds

namespace PixelTelescope.Beam.Congruential

/-- The state that a seed starts from. -/
def seeded (seed : Int) : UInt64 := UInt64.ofNat (seed % Bounds.words).toNat

def next (state : UInt64) : UInt64 := state * 6364136223846793005 + 1442695040888963407

/-- The upper 53 bits of a state as a fraction of one. -/
def fraction (state : UInt64) : Float := (state >>> 11).toFloat * Float.scaleB 1.0 (-53)

def unit : Drawing UInt64 Float := fun state => .ok (fraction (next state), next state)

/-- Draws that stretch one evenly spread number each, so that equal seeds give equal events. -/
def generator : Generator UInt64 Float where
  count mean := do
    if mean < 0.0 || mean.isNaN then throw .meanHits
    else
      let u ← unit
      match Scalar.truncate (2.0 * mean * u + 0.5) with
      | .ok n => return n.toNat
      | .error fault => throw (.number fault)
  uniform low high := do return low + (high - low) * (← unit)
  normal mean deviation := do return mean + deviation * (6.0 * (← unit) - 3.0)
  gamma shape scale := do return shape * 2.0 * (← unit) * scale

end PixelTelescope.Beam.Congruential
