import PixelTelescope.Failure
import PixelTelescope.Value.Basic

namespace PixelTelescope

/-- How many threads are asked for; none of them means the calling thread. -/
inductive Workers where
  | count (n : Int)
  | auto
  deriving Repr, DecidableEq

namespace Workers

def ofValue : Value → Except Failure Workers
  | .int n => .ok (.count n)
  | .bool b => .ok (.count (if b then 1 else 0))
  | .text s => if s = "auto" then .ok .auto else .error .workers
  | _ => .error .workers

/-- The number of threads on a machine with so many processors, if their number is known. -/
def resolve (processors : Option Int) : Workers → Nat
  | .count n => n.toNat
  | .auto => max 1 (processors.getD 1).toNat

end Workers

end PixelTelescope
