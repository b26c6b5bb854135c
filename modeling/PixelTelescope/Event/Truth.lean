import PixelTelescope.Event.Hit
import PixelTelescope.Event.Record

namespace PixelTelescope.Event

variable {α : Type} [Scalar α]

/-- A hit that has its row in a collection. -/
structure Placed (α : Type) where
  collection : Nat
  /-- The place in the collection. -/
  index : Nat
  row : Row α
  hit : Hit α

/-- A hit with particles behind it; `first` is the leading one, and `x` and `y` are the pixel as it
was delivered. -/
structure Match (α : Type) where
  collection : Nat
  index : Nat
  sensorId : Int
  signal : α
  x : α
  y : α
  first : Particle α
  others : List (Particle α)
  /-- The middle points, one for each particle. -/
  points : List (Tensor α × Tensor α × Tensor α)

namespace Match

def particles (m : Match α) : List (Particle α) := m.first :: m.others

/-- What is common to the hits of one cluster: the sensor and the leading track. -/
def key (m : Match α) : Int × Int := (m.sensorId, m.first.track)

def point (p : Particle α) : Except Failure (Tensor α × Tensor α × Tensor α) := do
  let middle ← p.midpoint
  return (← middle.row? 0, ← middle.row? 1, ← middle.row? 2)

/-- Hits without particles are left out. -/
def ofPlaced (p : Placed α) : Except Failure (Option (Match α)) :=
  match p.hit.particles with
  | [] => .ok none
  | first :: others => do
    let points ← (first :: others).mapM point
    let x ← p.hit.column.amount
    let y ← p.hit.row.amount
    return some {
      collection := p.collection, index := p.index, sensorId := p.row.sensorId,
      signal := p.row.signal, x, y, first, others, points }

end Match

def total (xs : List α) : α := xs.foldl (· + ·) 0.0

def count (n : Nat) : α := (Scalar.ofInt? (n : Int)).getD Scalar.nan

/-- The mean of a coordinate weighted by the signals; the plain mean where the signals add up to
nothing. -/
def centre (members : List (Match α)) (coordinate : Match α → α) : α :=
  let signal := total (members.map (·.signal))
  if Scalar.equal signal 0.0 then total (members.map coordinate) / count members.length
  else total (members.map fun m => m.signal * coordinate m) / signal

def clusterKeys (ms : List (Match α)) : List (Int × Int) := (ms.map Match.key).eraseDups

/-- One cluster for each pair of sensor and leading track, in order of first appearance. -/
def clusterTable (ms : List (Match α)) : List (Cluster α) :=
  (clusterKeys ms).zipIdx.map fun ((sensorId, track), id) =>
    let members := ms.filter fun m => m.key = (sensorId, track)
    { id, sensorId, track
      size := members.length
      signal := total (members.map (·.signal))
      x := centre members (·.x)
      y := centre members (·.y) }

def linkTable (ms : List (Match α)) : List ClusterLink :=
  ms.map fun m => ⟨m.collection, m.index, (clusterKeys ms).idxOf m.key⟩

/-- One row for each particle behind each hit. -/
def simHitTable (ms : List (Match α)) : Except Failure (List (SimHit α)) :=
  (ms.flatMap fun m => (m.particles.zip m.points).map (m, ·)).mapM
    fun (m, p, (px, py, pz)) => do
      if !(fitsColumn p.track && fitsColumn p.pdg) then .error (.number .outOfRange)
      else
        let (x, y, z) := (← px.single?, ← py.single?, ← pz.single?)
        return ⟨m.collection, m.index, m.sensorId, p.track, p.pdg, x, y, z⟩

/-- The particles of a track, each with its sensor. -/
def onTrack (ms : List (Match α)) (track : Int) : List (Int × Particle α) :=
  (ms.flatMap fun m => m.particles.map (m.sensorId, ·)).filter fun (_, p) => p.track = track

def trackIds (ms : List (Match α)) : List Int :=
  (ms.flatMap fun m => m.particles.map (·.track)).eraseDups.mergeSort (fun a b => a ≤ b)

/-- The tracks in order of their numbers; the first particle of a track gives it its code. -/
def trackTable (ms : List (Match α)) : List Track :=
  (trackIds ms).map fun track =>
    let members := onTrack ms track
    { track
      pdg := (members.head?.map (·.2.pdg)).getD 0
      hits := members.length
      sensors := (members.map (·.1)).eraseDups.length }

/-- The four tables that link hits to simulated particles. -/
def Truth.ofPlaced (placed : List (Placed α)) : Except Failure (Truth α) := do
  let ms := (← placed.mapM Match.ofPlaced).filterMap id
  if (clusterKeys ms).any fun key => !fitsColumn key.2 then .error (.number .outOfRange)
  else
    return {
      clusters := clusterTable ms
      links := linkTable ms
      simHits := ← simHitTable ms
      tracks := trackTable ms }

end PixelTelescope.Event
