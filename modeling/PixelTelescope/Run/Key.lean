import PixelTelescope.Value.Moment

namespace PixelTelescope.Run

/-- The name under which an event is stored: its number in nine characters or more. -/
def eventKey (number : Int) : String :=
  if number < 0 then "-" ++ padded 8 number.natAbs else padded 9 number.natAbs

def stagingMark : String := ".staging_"

/-- The name under which an event stands until it is complete. -/
def stagingKey (key : String) : String := stagingMark ++ key

def isStaging (name : String) : Bool := stagingMark.toList.isPrefixOf name.toList

end PixelTelescope.Run
