import PixelTelescope.Config.Sections
import PixelTelescope.Failure
import PixelTelescope.Toml.Reader

namespace PixelTelescope

namespace Config

/-- A refused value, where the place that it was read from plays no part. -/
def Refusal.failure : Refusal → Failure
  | .issues list => .validation list
  | .notIterable => .notIterable

def validated {α : Type} : Checked α → Except Failure α
  | .ok x => .ok x
  | .error r => .error r.failure

def ofFields (fields : Fields) : Except Failure Config := validated (check fields)

/-- The configuration in a text, which is named by its source in messages. -/
def ofText (source text : String) : Except Failure Config :=
  match Toml.read text with
  | .error .malformed => .error (.configuration (.malformedText source))
  | .error .tooLong => .error (.number .malformed)
  | .ok fields =>
    match check fields with
    | .ok config => .ok config
    | .error (.issues list) => .error (.configuration (.invalid source list))
    | .error .notIterable => .error .notIterable

end Config

end PixelTelescope
