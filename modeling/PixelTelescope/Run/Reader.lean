import PixelTelescope.Json.Reader
import PixelTelescope.Run.File

namespace PixelTelescope.Run

variable {α : Type}

def intAttribute (name : String) (attributes : List (String × Attribute)) : Except Failure Int :=
  match Keyed.get? name attributes with
  | some (.int n) => .ok n
  | some (.text s) =>
    match Text.readInt s with
    | some n => .ok n
    | none => .error (.number .malformed)
  | none => .error .missingKey

def textAttribute (name : String) (attributes : List (String × Attribute)) :
    Except Failure String :=
  match Keyed.get? name attributes with
  | some (.int n) => .ok (toString n)
  | some (.text s) => .ok s
  | none => .error .missingKey

structure Header where
  run : Int
  detector : String
  count : Int
  version : String
  deriving Repr, DecidableEq

def File.header (f : File α) : Except Failure Header := do
  return {
    run := ← intAttribute "run_number" f.attributes
    detector := ← textAttribute "detector_name" f.attributes
    count := ← intAttribute "n_events" f.attributes
    version := ← textAttribute "format_version" f.attributes }

def orMissing {β : Type} : Option β → Except Failure β
  | some x => .ok x
  | none => .error .missingKey

/-- The names in a text that lists them. -/
def namesOf (text : String) : Except Failure (List String) :=
  match Json.read text with
  | some (.list items) =>
    items.mapM fun
      | .text s => .ok s
      | _ => .error (.number .unsupported)
  | some _ => .error (.number .unsupported)
  | none => .error (.number .malformed)

def readPixelType (code : Int) : Except Failure PixelType :=
  match PixelType.ofCode? code with
  | some t => .ok t
  | none => .error (.pixelType (toString code))

def readCollection (tables : List (List String × HitTable α)) (name : String) :
    Except Failure (Event.Collection α) := do
  let table ← orMissing (Keyed.get? (nameParts name) tables)
  let pixelType ← readPixelType (← orMissing table.pixelType)
  return { name, pixelType, rows := table.rows }

def readTruth (t : TruthGroup α) : Except Failure (Event.Truth α) := do
  return {
    clusters := ← orMissing t.clusters
    links := ← orMissing t.links
    simHits := ← orMissing t.simHits
    tracks := ← orMissing t.tracks }

/-- The record that is stored in a group. -/
def Group.record (g : Group α) : Except Failure (Event.Record α) := do
  let names ← namesOf (← textAttribute "collections" g.attributes)
  let tables ← orMissing g.collections
  let collections ← names.mapM (readCollection tables)
  let truth ← match g.truth with
    | none => pure none
    | some t => some <$> readTruth t
  return {
    run := ← intAttribute "run_number" g.attributes
    number := ← intAttribute "event_number" g.attributes
    type := ← intAttribute "event_type" g.attributes
    collections, truth }

namespace File

/-- The event of a number; the file is named in messages. -/
def event (f : File α) (path : String) (number : Int) : Except Failure (Event.Record α) := do
  let groups ← orMissing f.events
  match Keyed.get? (eventKey number) groups with
  | some g => g.record
  | none => .error (.noEvent number path)

def numbered (entry : String × Group α) : Except Failure (Int × Group α) :=
  match Text.readInt entry.1 with
  | some n => .ok (n, entry.2)
  | none => .error (.number .malformed)

/-- The groups of complete events in the order of their numbers. -/
def committed (f : File α) : Except Failure (List (Int × Group α)) := do
  let groups ← orMissing f.events
  let numbered ← (groups.filter fun entry => !isStaging entry.1).mapM numbered
  return numbered.mergeSort fun a b => a.1 ≤ b.1

/-- All complete events in the order of their numbers. -/
def records (f : File α) : Except Failure (List (Event.Record α)) := do
  (← f.committed).mapM fun entry => entry.2.record

end File

end PixelTelescope.Run
