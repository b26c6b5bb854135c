import PixelTelescope.Gear.Text
import PixelTelescope.Run.Content

namespace PixelTelescope.Gear

open Run (Content)

/-- What turns a telescope into its geometry file. -/
structure Exporter where
  detectorName : String
  ids : List (String × Int)

/-- Puts a text at a path; what the system refuses is told as a failure to write geometry. -/
def putText {α : Type} (d : Disk (Content α)) (path : Path) (text : String) :
    Except Failure (Disk (Content α)) :=
  match d.write path (.text text) with
  | .ok d => .ok d
  | .error .badName => .error (.file .badName)
  | .error _ => .error (.output (.geometry path.text))

/-- Writes the geometry file in place of what stands at the path. -/
def Exporter.write {α : Type} (e : Exporter) (d : Disk (Content α)) (path : Path)
    (r : Geometry.Registry Float) : Logged (Except Failure (Disk (Content α))) :=
  let document := Document.ofRegistry e.detectorName e.ids r
  ⟨document.entries, do putText d path (← (← document.result).print)⟩

end PixelTelescope.Gear
