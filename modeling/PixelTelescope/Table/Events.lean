import PixelTelescope.Pool.Process
import PixelTelescope.Table.Row

namespace PixelTelescope.Table

variable {α : Type} [Scalar α]

/-- Hits with the detectors that delivered them, one message for each detector in order of first
appearance. -/
def group (hits : List (Option String × Event.Hit α)) : List (Event.Message α) :=
  (hits.map (·.1)).eraseDups.map fun detector =>
    { detector := detector.getD missingDetector
      hits := (hits.filter (·.1 = detector)).map (·.2) }

def messages (rows : List (Row α)) : Except Failure (List (Event.Message α)) := do
  let hits ← rows.mapM fun r => return (r.detector, ← r.hit)
  return group hits

/-- All integers from the least to the greatest event number. -/
def eventNumbers (rows : List (Row α)) : List Int :=
  match (rows.map (·.event)).min?, (rows.map (·.event)).max? with
  | some first, some last => (List.range (last - first + 1).toNat).map fun (i : Nat) => first + i
  | _, _ => []

/-- The events of those numbers up to the first that cannot be put together. -/
def eventsOf (rows : List (Row α)) : List Int → Source (Delivery α)
  | [] => { events := [] }
  | number :: rest =>
    match messages (rows.filter (·.event = number)) with
    | .error f => { events := [], failure := some f }
    | .ok list =>
      let later := eventsOf rows rest
      { later with events := (number, list) :: later.events }

/-- The events of a table in the order of their numbers; those without rows are empty. -/
def events (rows : List (Row α)) : Source (Delivery α) := eventsOf rows (eventNumbers rows)

end PixelTelescope.Table
