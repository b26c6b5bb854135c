import PixelTelescope.Failure
import PixelTelescope.Table.Column
import PixelTelescope.Table.Grid

namespace PixelTelescope.Table

/-- Columns of equal length with the names that stand over them. -/
structure Sheet where
  names : List String
  columns : List (List Value)

namespace Sheet

/-- The first column of a name. -/
def column? (s : Sheet) (name : String) : Option (List Value) :=
  ((s.names.zip s.columns).find? fun (n, _) => n = name).map (·.2)

/-- A line filled up with missing fields. -/
def filled (width : Nat) (line : List String) : List String :=
  line ++ List.replicate (width - line.length) ""

/-- The first line holds the names. The second may be longer and then sets the width: the columns
that it has more stand in front and have no names. -/
def ofLines : List (List String) → Except Failure Sheet
  | [] => .error .malformedTable
  | names :: lines =>
    let width := max names.length ((lines.head?.map List.length).getD 0)
    if lines.any fun line => width < line.length then .error .malformedTable
    else
      let filled := lines.map (filled width)
      let columns := (List.range width).map fun i => column (filled.map fun line => line.getD i "")
      .ok ⟨names, columns.drop (width - names.length)⟩

def ofText (text : String) : Except Failure Sheet :=
  match lines? text with
  | some lines => ofLines lines
  | none => .error .malformedTable

end Sheet

end PixelTelescope.Table
