import PixelTelescope.Event.Builder
import PixelTelescope.Value.Display

namespace PixelTelescope.Event

/-- The settings of a builder before they are checked. -/
structure Settings where
  run : Value := .int 1
  eventType : Value := .int 2
  pixelType : Value := .int 2
  truth : Value := .bool false

def Settings.pixel (s : Settings) : Except Failure PixelType :=
  match s.pixelType, PixelType.ofValue? s.pixelType with
  | _, some pixelType => .ok pixelType
  | .list _, none => .error (.number .unsupported)
  | .table _, none => .error (.number .unsupported)
  | v, none => .error (.pixelType v.display)

def Settings.builder (s : Settings) (assignment : Assignment) : Except Failure Builder := do
  let pixelType ← s.pixel
  let run ← s.run.reading.toInt
  let eventType ← s.eventType.reading.toInt
  return { assignment, run, eventType, pixelType, truth := s.truth.isTruthy }

end PixelTelescope.Event
