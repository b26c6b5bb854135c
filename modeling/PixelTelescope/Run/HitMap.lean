import PixelTelescope.Run.Reader

namespace PixelTelescope.Run

/-- How often each pixel of a sensor was hit; rows come before columns. -/
structure HitMap where
  rows : Nat
  columns : Nat
  /-- The pixel of every hit. -/
  pixels : List (Nat × Nat)
  deriving Repr, DecidableEq

namespace HitMap

def count (m : HitMap) (row column : Nat) : Nat := m.pixels.count (row, column)

/-- The pixels that were hit, row by row, with their counts. -/
def cells (m : HitMap) : List (Nat × Nat × Nat) :=
  let ordered := m.pixels.eraseDups.mergeSort fun a b => a.1 < b.1 || (a.1 = b.1 && a.2 ≤ b.2)
  ordered.map fun (row, column) => (row, column, m.count row column)

/-- One more than the largest index. -/
def extent (indices : List Int) : Int := indices.foldl max (indices.headD 0) + 1

/-- An index counts from the end where it is negative. -/
def wrap (size : Int) (index : Int) : Except ShapeFault Nat :=
  let place := if index < 0 then index + size else index
  if 0 ≤ place && place < size then .ok place.toNat else .error .missingIndex

/-- A map takes four bytes for each of its pixels, and 64 bits have to do to count them. -/
def hasRoom (rows columns : Int) : Bool :=
  0 ≤ rows && 0 ≤ columns && 4 * (rows * columns) ≤ Bounds.greatest64

/-- The map of points given by row and column, as large as the largest indices need. -/
def ofPoints (points : List (Int × Int)) : Except Failure HitMap := do
  let rows := extent (points.map (·.1))
  let columns := extent (points.map (·.2))
  if !hasRoom rows columns then .error (.shape .mismatched)
  else
    let pixels ← points.mapM fun (y, x) => do
      let row ← liftM (wrap rows y)
      let column ← liftM (wrap columns x)
      return (row, column)
    return ⟨rows.toNat, columns.toNat, pixels⟩

end HitMap

variable {α : Type}

def isSelected (filter : Option String) (c : Event.Collection α) : Bool :=
  match filter with
  | some name => c.name = name
  | none => true

/-- The rows of the selected collections of all events. -/
def selectedRows (filter : Option String) (records : List (Event.Record α)) :
    List (List (Event.Row α)) :=
  records.flatMap fun r => (r.collections.filter (isSelected filter)).map (·.rows)

/-- The sensors in rows, each collection's in order of their IDs. -/
def sensorIds (tables : List (List (Event.Row α))) : List Int :=
  (tables.flatMap fun rows =>
    (rows.map (·.sensorId)).eraseDups.mergeSort (fun a b => a ≤ b)).eraseDups

def sensorPoints (rows : List (Event.Row α)) (sensorId : Int) : List (Int × Int) :=
  (rows.filter (·.sensorId = sensorId)).map fun r => (r.y, r.x)

/-- One map for each sensor that was hit, in order of first appearance. -/
def hitMaps (filter : Option String) (records : List (Event.Record α)) :
    Except Failure (List (Int × HitMap)) :=
  let tables := selectedRows filter records
  (sensorIds tables).mapM fun sensorId => do
    return (sensorId, ← HitMap.ofPoints (sensorPoints tables.flatten sensorId))

def sortedMaps (maps : List (Int × HitMap)) : List (Int × HitMap) :=
  maps.mergeSort fun a b => a.1 ≤ b.1

end PixelTelescope.Run
