import PixelTelescope.Beam.Crossing
import PixelTelescope.Beam.Generator
import PixelTelescope.Geometry.Registry
import PixelTelescope.Pool.Process

namespace PixelTelescope.Beam

open PixelTelescope.Geometry (Detector Registry)

/-- What events are made up from: their number, the mean number of tracks, the number of the first
event and the spread of times in ns. -/
structure Settings (α : Type) [Scalar α] where
  events : Int
  meanTracks : α := 2.0
  first : Int := 1
  timeSpread : α := 25.0

variable {σ α : Type} [Scalar α]

/-- The tracks of one event, numbered on from a number. -/
def drawTracks (g : Generator σ α) (s : Settings α) (firstId : Nat) :
    Drawing σ (List (Track α)) := do
  let n ← g.count s.meanTracks
  let places ← (List.range n).mapM fun _ => do
    let u ← g.uniform 0.0 1.0
    return (u, ← g.uniform 0.0 1.0)
  let times ← (List.range n).mapM fun _ => g.uniform 0.0 s.timeSpread
  return (places.zip times).zipIdx.map fun (((u, v), time), i) => ⟨firstId + i, u, v, time⟩

def drawHit (g : Generator σ α) (d : Detector α) (t : Track α) : Drawing σ (Event.Hit α) := do
  let shiftX ← g.normal 0.0 1.0
  let shiftY ← g.normal 0.0 1.0
  let signal ← g.gamma 4.0 5.0
  StateT.lift (hitOf d t shiftX shiftY signal)

/-- Every track leaves one hit in a detector. -/
def drawMessage (g : Generator σ α) (tracks : List (Track α)) (d : Detector α) :
    Drawing σ (Event.Message α) := do
  let _ ← (pair d.model.pixels : Except ShapeFault _)
  return { detector := d.name, hits := ← tracks.mapM (drawHit g d) }

/-- The messages of one event and how many tracks it has. -/
def drawEvent (g : Generator σ α) (s : Settings α) (r : Registry α) (firstId : Nat) :
    Drawing σ (List (Event.Message α) × Nat) := do
  let tracks ← drawTracks g s firstId
  return (← r.detectors.mapM (drawMessage g tracks), tracks.length)

/-- So many events from a number on, up to one that cannot be drawn. -/
def eventsFrom (g : Generator σ α) (s : Settings α) (r : Registry α) :
    Nat → Int → Nat → σ → Source (Delivery α)
  | 0, _, _, _ => { events := [] }
  | n + 1, number, firstId, state =>
    match drawEvent g s r firstId state with
    | .error f => { events := [], failure := some f }
    | .ok ((messages, tracks), state) =>
      let later := eventsFrom g s r n (number + 1) (firstId + tracks) state
      { later with events := (number, messages) :: later.events }

/-- Straight tracks through every detector of a telescope. -/
def events (g : Generator σ α) (s : Settings α) (r : Registry α) (state : σ) :
    Source (Delivery α) :=
  eventsFrom g s r s.events.toNat s.first 0 state

end PixelTelescope.Beam
