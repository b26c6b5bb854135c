import PixelTelescope.Failure

namespace PixelTelescope.Beam

/-- What is drawn by chance from a state. -/
abbrev Drawing (σ : Type) := StateT σ (Except Failure)

/-- Random numbers of the kinds that a beam is made up from. -/
structure Generator (σ α : Type) where
  /-- A whole number about a mean. -/
  count : α → Drawing σ Nat
  /-- A number between two bounds. -/
  uniform : α → α → Drawing σ α
  /-- A number about a mean, with a deviation. -/
  normal : α → α → Drawing σ α
  /-- A positive number, by shape and scale. -/
  gamma : α → α → Drawing σ α

end PixelTelescope.Beam
