import PixelTelescope.Disk.Path
import PixelTelescope.Run.HitMap

namespace PixelTelescope.Run

/-- One map in a picture. -/
structure Panel where
  title : String
  xLabel : String := "column"
  yLabel : String := "row"
  map : HitMap
  deriving Repr, DecidableEq

/-- The maps of a run side by side. -/
structure Picture where
  title : String
  panels : List Panel
  path : String
  deriving Repr, DecidableEq

/-- A name that selects nothing counts as none in titles. -/
def shownFilter (filter : Option String) : Option String := filter.filter (· ≠ "")

def pictureTitle (path : String) (filter : Option String) : String :=
  (Path.ofText path).name ++
    match shownFilter filter with
    | some name => " : " ++ name
    | none => ""

/-- Where a picture goes that has no path of its own: beside the run. -/
def picturePath (path : String) : Except Failure String :=
  match (Path.ofText path).withSuffix? ".png" with
  | some p => .ok p.text
  | none => .error (.file .badName)

def Picture.ofMaps (path : String) (out filter : Option String) (maps : List (Int × HitMap)) :
    Except Failure Picture := do
  if maps.isEmpty then .error (.noHits path (shownFilter filter))
  else
    let target ← match out with
      | some target => pure target
      | none => picturePath path
    return {
      title := pictureTitle path filter
      panels := (sortedMaps maps).map fun (id, map) => { title := "sensor " ++ toString id, map }
      path := target }

end PixelTelescope.Run
