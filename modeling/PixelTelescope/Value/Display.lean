import PixelTelescope.Value.Basic
import PixelTelescope.Text.Quoted
import PixelTelescope.Decimal.Layout

namespace PixelTelescope.Value

mutual

/-- A value as it stands inside a list. -/
def shown : Value → String
  | .null => "None"
  | .bool b => if b then "True" else "False"
  | .int n => toString n
  | .float x => Decimal.fullText x
  | .text s => Text.quoted s
  | .moment m => m.call
  | .list items => Text.bracketed (shownItems items)
  | .table fields => Text.braced (shownFields fields)

def shownItems : List Value → List String
  | [] => []
  | v :: rest => shown v :: shownItems rest

def shownFields : List (String × Value) → List (String × String)
  | [] => []
  | (key, v) :: rest => (Text.quoted key, shown v) :: shownFields rest

end

/-- A value as text of its own: strings and moments stand without quotes. -/
def display : Value → String
  | .text s => s
  | .moment m => m.text
  | v => shown v

end PixelTelescope.Value
