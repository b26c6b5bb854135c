import PixelTelescope.Failure
import PixelTelescope.Keyed

namespace PixelTelescope

/-- Which of the two configuration styles an assignment came from, if any. -/
inductive Assignment.Source where
  | short
  | long
  | default
  deriving Repr, DecidableEq

def Assignment.Source.text : Source → String
  | .short => "short"
  | .long => "long"
  | .default => "default"

/-- The output collection and the sensor ID of every detector. -/
structure Assignment where
  collections : List (String × String)
  sensorIds : List (String × Int)
  /-- The distinct collections in order of first appearance. -/
  names : List String
  source : Assignment.Source
  deriving Repr, DecidableEq

namespace Assignment

def collectionFor (a : Assignment) (detector : String) : Except Failure String :=
  match Keyed.get? detector a.collections with
  | some collection => .ok collection
  | none => .error (.unknownDetector detector)

def sensorIdFor (a : Assignment) (detector : String) : Except Failure Int :=
  match Keyed.get? detector a.sensorIds with
  | some id => .ok id
  | none => .error (.unknownDetector detector)

def collectionIndex (a : Assignment) (collection : String) : Except Failure Nat :=
  match a.names.findIdx? (· = collection) with
  | some index => .ok index
  | none => .error .notListed

end Assignment

end PixelTelescope
