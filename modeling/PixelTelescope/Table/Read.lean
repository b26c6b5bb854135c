import PixelTelescope.Run.Content
import PixelTelescope.Table.Row

namespace PixelTelescope.Table

def textSuffixes : List String := [".csv", ".txt"]

/-- The hits of the table in a file. -/
def read (layout : Layout) (d : Disk (Run.Content Float)) (path : String) :
    Except Failure (List (Row Float)) := do
  let p := Path.ofText path
  let suffix := p.suffix.map Char.toLower
  if !textSuffixes.contains suffix then .error (.configuration (.tableFormat suffix p.text))
  else
    let text ← match d.find p with
      | .ok (.file (.text s)) => pure s
      | .ok (.file _) => .error .malformedTable
      | .ok .directory => .error (.file .isDirectory)
      | .error fault => .error (.file fault)
    let sheet ← Sheet.ofText text
    let absent := requiredColumns.filter fun name => !sheet.names.contains name
    if absent.isEmpty then rowsOf layout sheet
    else .error (.configuration (.tableColumns p.text absent))

end PixelTelescope.Table
