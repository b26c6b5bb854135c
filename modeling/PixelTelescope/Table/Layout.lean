import PixelTelescope.Table.Sheet
import PixelTelescope.Text.Identifier

namespace PixelTelescope.Table

/-- The names of the columns that a hit table may do without. A name that is no text is nothing. -/
structure Layout where
  time : Option String := some "time"
  track : Option String := some "mc_track"
  pdg : Option String := some "mc_pdg"
  deriving Repr, DecidableEq

namespace Layout

def name? : Value → Option String
  | .text s => some s
  | _ => none

/-- Names the columns that the fields set; only the fields of a layout may be set. -/
def ofFields (fields : List (String × Value)) : Except Failure Layout :=
  let known := ["time_column", "track_column", "pdg_column", "hdf_key"]
  let named := fun (key default : String) =>
    match Value.field? key fields with
    | some v => name? v
    | none => some default
  if fields.all fun (key, _) => known.contains key then
    .ok {
      time := named "time_column" "time"
      track := named "track_column" "mc_track"
      pdg := named "pdg_column" "mc_pdg" }
  else .error (.number .unsupported)

end Layout

/-- Words that cannot name a field. -/
def keywords : List String := [
  "False", "None", "True", "and", "as", "assert", "async", "await", "break", "class", "continue",
  "def", "del", "elif", "else", "except", "finally", "for", "from", "global", "if", "import", "in",
  "is", "lambda", "nonlocal", "not", "or", "pass", "raise", "return", "try", "while", "with",
  "yield"]

def isFieldName (name : String) : Bool :=
  Text.isIdentifier name && !keywords.contains name && !name.startsWith "_"

/-- The names under which the values of a row are found: a column whose name cannot name a field
goes by its position. -/
def fieldNames : List String → List String → Nat → List String
  | _, [], _ => []
  | seen, name :: rest, i =>
    let field := if isFieldName name && !seen.contains name then name else "_" ++ toString i
    field :: fieldNames (name :: seen) rest (i + 1)

/-- What every row has besides its fields; none of it is a number. -/
def rowMembers : List String := ["count", "index", "_asdict", "_fields", "_make", "_replace"]

/-- The values of a column that rows are asked for, if there is one. -/
def Sheet.field? (s : Sheet) (name : String) : Option (List Value) :=
  match ({ s with names := fieldNames [] s.names 0 } : Sheet).column? name with
  | some values => some values
  | none =>
    if rowMembers.contains name then some (List.replicate (s.columns.headD []).length .null)
    else none

end PixelTelescope.Table
