namespace PixelTelescope.Run

/-- Where a session stands; it only ever moves down this list. -/
inductive Stage where
  | uninitialized
  | open
  | closed
  deriving Repr, DecidableEq

def Stage.text : Stage → String
  | .uninitialized => "uninitialized"
  | .open => "open"
  | .closed => "closed"

end PixelTelescope.Run
