import PixelTelescope.Event.PixelType
import PixelTelescope.Geometry.FieldKind
import PixelTelescope.Pool.Workers

namespace PixelTelescope.Config

/-- How a run is carried out. -/
structure RunSection where
  number : Int := 1
  workers : Workers := .auto
  progress : Bool := true
  /-- What is logged: 0 for warnings only, 1 for status, 2 for everything. -/
  diagnostics : Int := 1
  events : Int := 100
  seed : Option Int := none
  /-- The mean of the number of hits that are made up for each detector and event. -/
  hitsPerDetector : Float := 2.0
  deriving Repr

inductive SourceFormat where
  | table
  | synthetic
  deriving Repr, DecidableEq

def SourceFormat.text : SourceFormat → String
  | .table => "table"
  | .synthetic => "synthetic"

def SourceFormat.ofText? (s : String) : Option SourceFormat :=
  if s = "table" then some .table else if s = "synthetic" then some .synthetic else none

/-- Where events come from and where files go. -/
structure SourceSection where
  outputDir : String := "output"
  format : SourceFormat := .synthetic
  inputPath : Option String := none
  deriving Repr, DecidableEq

/-- What is written. -/
structure WriterSection where
  fileName : String := "output.h5"
  geometryFile : Option String := some "allpix_squared_gear.xml"
  detectorName : String := "EUTelescope"
  pixelType : PixelType := .timed
  truth : Bool := false
  eventType : Int := 2
  collection : Option String := none
  assignment : Option (List (List String)) := none
  deriving Repr, DecidableEq

/-- The magnetic field in T. -/
structure FieldSection (α : Type) where
  kind : Geometry.FieldKind := .none
  vector : List α
  /-- In T/mm, for a linear field. -/
  gradient : Option (List (List α)) := none
  deriving Repr

/-- Three angles in deg, or a matrix. -/
inductive Orientation (α : Type) where
  | angles (list : List α)
  | matrix (rows : List (List α))
  deriving Repr

/-- One detector: its position in mm, its pixels and thicknesses in um. -/
structure DetectorSection (α : Type) where
  name : String
  type : String
  position : List α
  orientation : Orientation α
  pixels : List Int
  pixelSize : List α
  thickness : α
  excess : α
  chip : α
  deriving Repr

end Config

structure Config where
  run : Config.RunSection
  source : Config.SourceSection
  writer : Config.WriterSection
  field : Config.FieldSection Float
  detectors : List (Config.DetectorSection Float)
  deriving Repr

end PixelTelescope
