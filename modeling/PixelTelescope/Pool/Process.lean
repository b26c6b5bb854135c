import PixelTelescope.Act
import PixelTelescope.Event.Hit
import PixelTelescope.Pool.Workers

namespace PixelTelescope

/-- Events in order, and the failure that comes in place of a further one, if any does. -/
structure Source (ε : Type) where
  events : List ε
  failure : Option Failure := none

/-- The number of an event with what its detectors delivered. -/
abbrev Delivery (α : Type) := Int × List (Event.Message α)

namespace Pool

variable {σ ε β : Type}

/-- Handles events one after the other up to the first failure, and counts them. -/
def serial (handle : ε → Act σ β) : List ε → Act σ Nat
  | [] => .succeed 0
  | e :: rest => do
    let _ ← handle e
    let n ← serial handle rest
    return n + 1

def ofSource (failure : Option Failure) (n : Nat) : Act σ Nat :=
  match failure with
  | some f => .fail f
  | none => .succeed n

def inOrder (handle : ε → Act σ β) (source : Source ε) : Act σ Nat := do
  let n ← serial handle source.events
  ofSource source.failure n

/-- Handles every event of a batch, also after a failure, and gives the first failure. -/
def batch (handle : ε → Act σ β) : List ε → Act σ (Option Failure)
  | [] => .succeed none
  | e :: rest => do
    let first ← (handle e).attempt
    let later ← batch handle rest
    match first with
    | .ok _ => return later
    | .error f => return some f

/-- As many events as may be in hand at once. -/
def window (threads : Nat) : Nat := 2 * threads

/-- Hands events out a batch at a time; `rounds` bounds the number of batches. -/
def batches (size : Nat) (handle : ε → Act σ β) (failure : Option Failure) :
    Nat → List ε → Nat → Act σ Nat
  | 0, _, n => ofSource failure n
  | rounds + 1, events, n =>
    let (now, later) := events.splitAt size
    do
      let failed ← batch handle now
      if now.length < size then
        match failure, failed with
        | some f, _ => .fail f
        | none, some f => .fail f
        | none, none => .succeed (n + now.length)
      else
        match failed with
        | some f => .fail f
        | none => batches size handle failure rounds later (n + now.length)

/-- Several threads. With a progress bar the run ends in a failure once the first batch is done. -/
def threaded (threads : Nat) (progress : Bool) (handle : ε → Act σ β) (source : Source ε) :
    Act σ Nat :=
  if progress then do
    let _ ← batch handle (source.events.take (window threads))
    .fail .progressBar
  else batches (window threads) handle source.failure (source.events.length + 1) source.events 0

/-- Handles all events of a source on the threads asked for, and counts them. -/
def process (processors : Option Int) (workers : Workers) (progress : Bool)
    (handle : ε → Act σ β) (source : Source ε) : Act σ Nat :=
  match workers.resolve processors with
  | 0 => inOrder handle source
  | threads + 1 => threaded (threads + 1) progress handle source

end Pool

end PixelTelescope
