import PixelTelescope.Failure
import PixelTelescope.Log

namespace PixelTelescope

/-- A new state with what was logged and found on the way to it. -/
structure After (σ β : Type) where
  state : σ
  entries : List Entry := []
  result : Except Failure β

/-- Something that is done to a state. What was done and logged before a failure stays. -/
abbrev Act (σ β : Type) := σ → After σ β

namespace Act

variable {σ β γ : Type}

def succeed (x : β) : Act σ β := fun s => ⟨s, [], .ok x⟩

def fail (f : Failure) : Act σ β := fun s => ⟨s, [], .error f⟩

def log (entries : List Entry) : Act σ Unit := fun s => ⟨s, entries, .ok ()⟩

def ofResult (r : Except Failure β) : Act σ β := fun s => ⟨s, [], r⟩

/-- Goes on with what was found, if anything was. -/
def andThen (a : Act σ β) (f : β → Act σ γ) : Act σ γ := fun s =>
  let first := a s
  match first.result with
  | .ok x =>
    let second := f x first.state
    ⟨second.state, first.entries ++ second.entries, second.result⟩
  | .error failure => ⟨first.state, first.entries, .error failure⟩

/-- Gives the failure, if there is one, as something found. -/
def attempt (a : Act σ β) : Act σ (Except Failure β) := fun s =>
  let first := a s
  ⟨first.state, first.entries, .ok first.result⟩

instance : Monad (Act σ) where
  pure := succeed
  bind := andThen

end Act

end PixelTelescope
