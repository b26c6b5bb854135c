import PixelTelescope.Json.Text
import PixelTelescope.Value.Basic
import PixelTelescope.Decimal.Layout

namespace PixelTelescope.Json

def floatText (x : Float) : String := (Decimal.fullStyle "NaN" "Infinity").write Decimal.shortest x

mutual

/-- A value on one line with neither blanks nor escapes beyond the needed ones. -/
def write : Value → String
  | .null => "null"
  | .bool b => if b then "true" else "false"
  | .int n => toString n
  | .float x => floatText x
  | .text s => text s
  | .moment m => text m.text
  | .list items => "[" ++ ",".intercalate (writeItems items) ++ "]"
  | .table fields => "\x7b" ++ ",".intercalate (writeFields fields) ++ "\x7d"

def writeItems : List Value → List String
  | [] => []
  | v :: rest => write v :: writeItems rest

def writeFields : List (String × Value) → List String
  | [] => []
  | (key, v) :: rest => (text key ++ ":" ++ write v) :: writeFields rest

end

end PixelTelescope.Json
