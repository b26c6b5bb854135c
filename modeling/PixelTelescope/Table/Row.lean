import PixelTelescope.Event.Hit
import PixelTelescope.Table.Layout
import PixelTelescope.Value.Display

namespace PixelTelescope.Table

/-- One hit of a table. -/
structure Row (α : Type) where
  event : Int
  /-- Nothing where the table has none. -/
  detector : Option String
  column : Int
  row : Int
  signal : α
  time : Reading α
  track : Option (Reading α)
  pdg : Option (Reading α)
  deriving Repr

/-- Hits whose detector is missing go by the word for no number. -/
def missingDetector : String := "nan"

namespace Row

variable {α : Type} [Scalar α]

def detectorName (r : Row α) : String := r.detector.getD missingDetector

/-- The particle behind a hit, unless its track is missing or negative. -/
def particles (r : Row α) : Except Failure (List (Event.Particle α)) :=
  match r.track with
  | none => .ok []
  | some track => do
    let track ← track.toInt
    if track < 0 then return []
    else
      let pdg ← match r.pdg with
        | some code => liftM code.toInt
        | none => pure 0
      return [{ track, pdg, entry := .zeros [3], exit := .zeros [3] }]

def hit (r : Row α) : Except Failure (Event.Hit α) := do
  let time ← r.time.toScalar
  return {
    detector := r.detectorName
    column := .whole r.column
    row := .whole r.row
    signal := .real r.signal
    time := .real time
    particles := ← r.particles }

end Row

/-- An integer of 64 bits. Numbers are cut, and those beyond every such integer become the least
one; integers without a sign wrap around. -/
def castWhole : Value → Except NumberFault Int
  | .int n => .ok (Int.bmod n Bounds.words.toNat)
  | .text s =>
    match Text.readInt s with
    | none => .error .malformed
    | some n => if Bounds.fits64 n then .ok n else .error .outOfRange
  | v =>
    match v.reading.toInt with
    | .ok n => .ok (if Bounds.fits64 n then n else Bounds.least64)
    | .error _ => .error .malformed

def isAbsent : Value → Bool
  | .float x => x.isNaN
  | _ => false

def present (v : Value) : Option Value := if isAbsent v then none else some v

def requiredColumns : List String := ["event", "detector", "column", "row", "signal"]

/-- The columns of every hit table hold integers, numbers and names; all others stay as they
are. -/
def castColumn (name : String) (values : List Value) : Except NumberFault (List Value) :=
  if name = "event" || name = "column" || name = "row" then
    values.mapM fun v => return .int (← castWhole v)
  else if name = "signal" then values.mapM fun v => return .float (← v.reading.toScalar)
  else if name = "detector" then
    .ok (values.map fun v => ((present v).map fun v => Value.text v.display).getD missing)
  else .ok values

/-- Casts columns in the order in which they stand. -/
def Sheet.cast (s : Sheet) : Except Failure Sheet := do
  let columns ← ((fieldNames [] s.names 0).zip s.columns).mapM fun (name, values) =>
    liftM (castColumn name values)
  return { s with columns }

def wholeOf : Value → Int
  | .int n => n
  | _ => 0

def numberOf : Value → Float
  | .float x => x
  | _ => Text.notANumber

/-- The values of a column that may be left out or left unnamed. -/
def optionalColumn (s : Sheet) (count : Nat) (default : Value) : Option String → List Value
  | some name => (s.field? name).getD (List.replicate count default)
  | none => List.replicate count .null

/-- The hits of a table in the order of its lines. -/
def rowsOf (layout : Layout) (s : Sheet) : Except Failure (List (Row Float)) := do
  let s ← s.cast
  let required := fun (name : String) => ((s.column? name).getD []).toArray
  let numbers := required "event"
  let detectors := required "detector"
  let columns := required "column"
  let rows := required "row"
  let signals := required "signal"
  let count := numbers.size
  let times := (optionalColumn s count (.float 0.0) layout.time).toArray
  let tracks := (optionalColumn s count missing layout.track).toArray
  let codes := (optionalColumn s count missing layout.pdg).toArray
  return (List.range count).map fun i => {
    event := wholeOf (numbers.getD i missing)
    detector := (present (detectors.getD i missing)).map Value.display
    column := wholeOf (columns.getD i missing)
    row := wholeOf (rows.getD i missing)
    signal := numberOf (signals.getD i missing)
    time := (times.getD i missing).reading
    track := (present (tracks.getD i missing)).map Value.reading
    pdg := (present (codes.getD i missing)).map Value.reading }

end PixelTelescope.Table
