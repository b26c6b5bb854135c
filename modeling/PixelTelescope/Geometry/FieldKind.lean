namespace PixelTelescope.Geometry

/-- How a magnetic field depends on the place. -/
inductive FieldKind where
  | none
  | constant
  | linear
  | custom
  deriving Repr, DecidableEq

namespace FieldKind

def text : FieldKind → String
  | .none => "none"
  | .constant => "constant"
  | .linear => "linear"
  | .custom => "custom"

def all : List FieldKind := [.none, .constant, .linear, .custom]

def ofText? (s : String) : Option FieldKind := all.find? fun kind => kind.text = s

end FieldKind

end PixelTelescope.Geometry
