import PixelTelescope.Bounds
import PixelTelescope.Event.PixelType
import PixelTelescope.Failure

namespace PixelTelescope.Event

/-- A hit as it is stored; the time belongs to timed pixels only. -/
structure Row (α : Type) where
  sensorId : Int
  x : Int
  y : Int
  signal : α
  time : Option α
  deriving Repr, DecidableEq

/-- The whole numbers that a stored column holds. -/
def fitsColumn (n : Int) : Bool := Bounds.fits32 n

def Row.fits {α : Type} (r : Row α) : Bool :=
  fitsColumn r.sensorId && fitsColumn r.x && fitsColumn r.y

structure Collection (α : Type) where
  name : String
  pixelType : PixelType
  rows : List (Row α)
  deriving Repr, DecidableEq

/-- The pixels of one sensor that one track fired first of all. -/
structure Cluster (α : Type) where
  id : Nat
  sensorId : Int
  track : Int
  size : Nat
  signal : α
  x : α
  y : α
  deriving Repr, DecidableEq

/-- The cluster that a hit belongs to; the hit is given by its collection and place in it. -/
structure ClusterLink where
  collection : Nat
  hit : Nat
  cluster : Nat
  deriving Repr, DecidableEq

/-- One particle behind one hit, with the middle of its way through the sensor. -/
structure SimHit (α : Type) where
  collection : Nat
  hit : Nat
  sensorId : Int
  track : Int
  pdg : Int
  x : α
  y : α
  z : α
  deriving Repr, DecidableEq

structure Track where
  track : Int
  pdg : Int
  hits : Nat
  sensors : Nat
  deriving Repr, DecidableEq

structure Truth (α : Type) where
  clusters : List (Cluster α)
  links : List ClusterLink
  simHits : List (SimHit α)
  tracks : List Track
  deriving Repr, DecidableEq

/-- What is stored of one event. -/
structure Record (α : Type) where
  run : Int
  number : Int
  type : Int
  collections : List (Collection α)
  truth : Option (Truth α)
  deriving Repr, DecidableEq

namespace Record

variable {α : Type}

def hitCount (r : Record α) : Nat := (r.collections.flatMap (·.rows)).length

def collection (r : Record α) (name : String) : Except Failure (Collection α) :=
  match r.collections.find? (·.name = name) with
  | some c => .ok c
  | none => .error (.noCollection name r.number)

end Record

end PixelTelescope.Event
