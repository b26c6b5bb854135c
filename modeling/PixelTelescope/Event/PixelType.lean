import PixelTelescope.Value.Basic

namespace PixelTelescope

/-- What is kept of a hit: the pixel and its signal, or the time as well. -/
inductive PixelType where
  | simple
  | timed
  deriving Repr, DecidableEq

namespace PixelType

def code : PixelType → Int
  | .simple => 1
  | .timed => 2

def ofCode? (n : Int) : Option PixelType :=
  if n = 1 then some .simple else if n = 2 then some .timed else none

/-- A code, or a value that equals one. -/
def ofValue? : Value → Option PixelType
  | .int n => ofCode? n
  | .bool b => ofCode? (if b then 1 else 0)
  | .float x => if x == 1.0 then some .simple else if x == 2.0 then some .timed else none
  | _ => none

end PixelType

end PixelTelescope
