import PixelTelescope.Tensor.Basic
import PixelTelescope.Value.Basic

namespace PixelTelescope.Tensor

mutual

/-- The sizes of nested lists, which have to agree at every depth. -/
def sizesOf : Value → Except ShapeFault (List Nat)
  | .list items => do
    let rest ← sizesOfItems items
    match rest with
    | [] => return [0]
    | first :: others =>
      if others.all (· = first) then return items.length :: first else .error .ragged
  | _ => return []

def sizesOfItems : List Value → Except ShapeFault (List (List Nat))
  | [] => return []
  | v :: rest => return (← sizesOf v) :: (← sizesOfItems rest)

end

mutual

/-- The numbers in nested lists; nothing stands for no number. -/
def numbersOf : Value → Except NumberFault (List Float)
  | .list items => numbersOfItems items
  | .null => return [Text.notANumber]
  | v => return [← v.reading.toScalar]

def numbersOfItems : List Value → Except NumberFault (List Float)
  | [] => return []
  | v :: rest => return (← numbersOf v) ++ (← numbersOfItems rest)

end

def ofValue (v : Value) : Except Failure (Tensor Float) := do
  let sizes ← sizesOf v
  let entries ← numbersOf v
  return ⟨sizes, entries⟩

end PixelTelescope.Tensor
