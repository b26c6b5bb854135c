import PixelTelescope.Assignment.Resolve
import PixelTelescope.Config.Basic

namespace PixelTelescope

/-- The assignment that a checked section asks for. -/
def Config.WriterSection.request (s : Config.WriterSection) (detectors : List String) :
    Assignment.Request where
  detectors := detectors
  collection := s.collection
  rows := s.assignment.map fun rows => .list (rows.map Value.texts)

end PixelTelescope
