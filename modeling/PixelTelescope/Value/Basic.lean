import PixelTelescope.Scalar
import PixelTelescope.Value.Moment

namespace PixelTelescope

/-- A value of a configuration or of a table, before anything is known of its kind. -/
inductive Value where
  | null
  | bool (b : Bool)
  | int (n : Int)
  | float (x : Float)
  | text (s : String)
  | moment (m : Moment)
  | list (items : List Value)
  | table (fields : List (String × Value))
  deriving Repr

instance : Inhabited Value := ⟨.null⟩

namespace Value

def reading : Value → Reading Float
  | .bool b => .whole (if b then 1 else 0)
  | .int n => .whole n
  | .float x => .real x
  | .text s => .text s
  | _ => .absent

/-- Whether a value counts as true: zeros and whatever is empty do not. -/
def isTruthy : Value → Bool
  | .null => false
  | .bool b => b
  | .int n => n ≠ 0
  | .float x => x != 0.0
  | .text s => s ≠ ""
  | .moment _ => true
  | .list items => !items.isEmpty
  | .table fields => !fields.isEmpty

def texts (items : List String) : Value := .list (items.map .text)

/-- What stands in a value one after the other: items, characters or keys. -/
def items? : Value → Option (List Value)
  | .list items => some items
  | .text s => some (s.toList.map fun c => .text (String.singleton c))
  | .table fields => some (fields.map fun field => .text field.1)
  | _ => none

def field? (name : String) (fields : List (String × Value)) : Option Value :=
  (fields.find? fun field => field.1 = name).map (·.2)

end Value

end PixelTelescope
