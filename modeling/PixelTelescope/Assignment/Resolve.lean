import PixelTelescope.Assignment.Basic
import PixelTelescope.Log
import PixelTelescope.Value.Display

namespace PixelTelescope.Assignment

def defaultCollection : String := "zsdata_m26"

/-- What a configuration says on where hits go: one collection for all detectors, a row for each
detector, or nothing. -/
structure Request where
  detectors : List String
  collection : Option String := none
  rows : Option Value := none
  fallback : String := defaultCollection

/-- A name that can stand as one step of a path. -/
def isCollectionName (name : String) : Bool :=
  name != "" && !name.toList.contains '/' && name != "." && name != ".."

def checkName (name : String) : Except Failure String :=
  if isCollectionName name then .ok name
  else .error (.configuration (.collectionName name))

/-- One collection for all detectors, numbered in their order. -/
def uniform (detectors : List String) (collection : String) (source : Source) :
    Except Failure Assignment := do
  let name ← checkName collection
  return {
    collections := detectors.foldl (fun pairs d => Keyed.put d name pairs) []
    sensorIds := detectors.zipIdx.foldl (fun pairs (d, i) => Keyed.put d (i : Int) pairs) []
    names := if detectors.isEmpty then [] else [name]
    source }

def empty : Assignment := ⟨[], [], [], .long⟩

/-- The sensor ID that a row gives, or its place in the table. -/
def rowSensorId (index : Nat) (detector : String) : Option Value → Except Failure Int
  | none => .ok index
  | some v =>
    match v.reading.toInt with
    | .ok id => .ok id
    | .error .malformed => .error (.configuration (.sensorId v.display detector))
    | .error fault => .error (.number fault)

def addName (name : String) (names : List String) : List String :=
  if names.contains name then names else names ++ [name]

def addEntry (detectors : List String) (a : Assignment) (index : Nat) (first second : Value)
    (third : Option Value) : Except Failure Assignment := do
  let detector := first.display
  let collection ← checkName second.display
  if !detectors.contains detector then .error (.configuration (.unlistedDetector detector))
  else if Keyed.contains detector a.collections then
    .error (.configuration (.repeatedDetector detector))
  else
    let id ← rowSensorId index detector third
    if (a.sensorIds.map (·.2)).contains id then .error (.configuration (.repeatedSensorId id))
    else
      return {
        collections := Keyed.put detector collection a.collections
        sensorIds := Keyed.put detector id a.sensorIds
        names := addName collection a.names
        source := .long }

/-- Adds one row: a detector, its collection and, if given, its sensor ID. -/
def addRow (detectors : List String) (a : Assignment) (index : Nat) (row : Value) :
    Except Failure Assignment :=
  match row.items? with
  | none => .error .notIterable
  | some [first, second] => addEntry detectors a index first second none
  | some [first, second, third] => addEntry detectors a index first second (some third)
  | some items => .error (.configuration (.rowLength index (Value.shown (.list items))))

def addRows (detectors : List String) : Assignment → Nat → List Value → Except Failure Assignment
  | a, _, [] => .ok a
  | a, index, row :: rest => do addRows detectors (← addRow detectors a index row) (index + 1) rest

/-- One row for each detector, in any order. -/
def fromRows (detectors : List String) (rows : Value) : Except Failure Assignment := do
  let a ← match rows.items? with
    | some list => addRows detectors empty 0 list
    | none => .error .notIterable
  let missing := detectors.filter fun d => !Keyed.contains d a.collections
  if missing.isEmpty then return a else .error (.configuration (.uncovered missing))

namespace Request

/-- The one collection wins where both styles are given. -/
def resolve (r : Request) : Except Failure Assignment :=
  match r.collection, r.rows with
  | some name, _ => uniform r.detectors name .short
  | none, some rows => fromRows r.detectors rows
  | none, none => uniform r.detectors r.fallback .default

def conflict (r : Request) : List Entry :=
  match r.collection, r.rows with
  | some name, some _ =>
    [.warning ("Both output_collection_name and detector_assignment are set; " ++
      "using output_collection_name '" ++ name ++ "' and ignoring detector_assignment")]
  | _, _ => []

def summary (a : Assignment) : Entry :=
  .debug ("Collection assignment (" ++ a.source.text ++ "): " ++
    Text.braced (a.collections.map fun (detector, name) =>
      (Text.quoted detector, Text.quoted name)))

def logged (r : Request) : Logged (Except Failure Assignment) :=
  match r.resolve with
  | .ok a => ⟨r.conflict ++ [summary a], .ok a⟩
  | .error fault => ⟨r.conflict, .error fault⟩

end Request

end PixelTelescope.Assignment
