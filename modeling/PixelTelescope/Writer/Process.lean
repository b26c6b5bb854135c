import PixelTelescope.Pool.Process
import PixelTelescope.Writer.Basic

namespace PixelTelescope.Writer

/-- Writes all events of a source into the open run. -/
def process (w : Writer) (processors : Option Int) (workers : Except Failure Workers)
    (progress : Bool) (source : Source (Delivery Float)) : Act Progress Nat := fun p =>
  match p.desk.session.stage with
  | .open =>
    let act : Act Progress Nat := do
      let workers ← Act.ofResult workers
      Pool.process processors workers progress (fun e => w.write e.1 e.2) source
    act p
  | _ => ⟨p, [], .error (.lifecycle .notInitialized)⟩

end PixelTelescope.Writer
