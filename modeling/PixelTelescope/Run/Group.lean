import PixelTelescope.Bounds
import PixelTelescope.Event.Record
import PixelTelescope.Json.Writer
import PixelTelescope.Keyed

namespace PixelTelescope.Run

/-- Why a step of writing goes wrong. -/
inductive StoreFault where
  /-- A failure of this library, which is passed on as it is. -/
  | own (failure : Failure)
  /-- Whatever the file or the system below it refuses. -/
  | refused
  deriving Repr, DecidableEq

inductive Attribute where
  | int (n : Int)
  | text (s : String)
  deriving Repr, DecidableEq

namespace Attribute

/-- The whole numbers that 64 bits hold, with a sign or without. -/
def fits (n : Int) : Bool := Bounds.least64 ≤ n && n < Bounds.words

def isStorable : Attribute → Bool
  | .int n => fits n
  | .text s => !s.toList.contains '\x00'

end Attribute

/-- A stored collection; its pixel type follows the rows. -/
structure HitTable (α : Type) where
  rows : List (Event.Row α)
  pixelType : Option Int := none
  deriving Repr, DecidableEq

/-- The stored tables of truth, as far as they have been written. -/
structure TruthGroup (α : Type) where
  clusters : Option (List (Event.Cluster α)) := none
  links : Option (List Event.ClusterLink) := none
  simHits : Option (List (Event.SimHit α)) := none
  tracks : Option (List Event.Track) := none
  deriving Repr, DecidableEq

/-- What is stored of one event, as far as it has been written. -/
structure Group (α : Type) where
  attributes : List (String × Attribute) := []
  /-- The collections, each under the steps of its name. -/
  collections : Option (List (List String × HitTable α)) := none
  truth : Option (TruthGroup α) := none
  deriving Repr, DecidableEq

/-- A step that adds to the group of an event. -/
inductive Change (α : Type) where
  | attribute (name : String) (a : Attribute)
  | openCollections
  | addHits (name : String) (rows : List (Event.Row α))
  | pixelType (name : String) (code : Int)
  | openTruth
  | addClusters (rows : List (Event.Cluster α))
  | addLinks (rows : List Event.ClusterLink)
  | addSimHits (rows : List (Event.SimHit α))
  | addTracks (rows : List Event.Track)

/-- The steps of a name on the way to a collection. -/
def nameParts (name : String) : List String :=
  ((name.toList.splitOn '/').map String.ofList).filter fun part => part ≠ "" && part ≠ "."

/-- Whether one of two names lies on the way to the other. -/
def clashes (a b : List String) : Bool := a.isPrefixOf b || b.isPrefixOf a

variable {α : Type}

namespace Group

def putAttribute (g : Group α) (name : String) (a : Attribute) : Except StoreFault (Group α) :=
  if a.isStorable then .ok { g with attributes := Keyed.put name a g.attributes }
  else .error .refused

def addHits (g : Group α) (name : String) (rows : List (Event.Row α)) :
    Except StoreFault (Group α) :=
  match g.collections with
  | none => .error .refused
  | some tables =>
    let parts := nameParts name
    if parts = [] || tables.any fun t => clashes t.1 parts then .error .refused
    else .ok { g with collections := some (tables ++ [(parts, { rows })]) }

def setPixelType (g : Group α) (name : String) (code : Int) : Except StoreFault (Group α) :=
  match g.collections with
  | none => .error .refused
  | some tables =>
    let parts := nameParts name
    match Keyed.get? parts tables with
    | none => .error .refused
    | some table =>
      let table := { table with pixelType := some code }
      .ok { g with collections := some (Keyed.put parts table tables) }

def changeTruth (g : Group α) (change : TruthGroup α → TruthGroup α) :
    Except StoreFault (Group α) :=
  match g.truth with
  | none => .error .refused
  | some t => .ok { g with truth := some (change t) }

def apply (g : Group α) : Change α → Except StoreFault (Group α)
  | .attribute name a => g.putAttribute name a
  | .openCollections => .ok { g with collections := some [] }
  | .addHits name rows => g.addHits name rows
  | .pixelType name code => g.setPixelType name code
  | .openTruth => .ok { g with truth := some {} }
  | .addClusters rows => g.changeTruth ({ · with clusters := some rows })
  | .addLinks rows => g.changeTruth ({ · with links := some rows })
  | .addSimHits rows => g.changeTruth ({ · with simHits := some rows })
  | .addTracks rows => g.changeTruth ({ · with tracks := some rows })

end Group

/-- The names of the collections as one text, in order. -/
def namesText (r : Event.Record α) : String := Json.write (Value.texts (r.collections.map (·.name)))

def collectionChanges (c : Event.Collection α) : List (Change α) :=
  [.addHits c.name c.rows, .pixelType c.name c.pixelType.code]

def truthChanges (t : Event.Truth α) : List (Change α) :=
  [.openTruth, .addClusters t.clusters, .addLinks t.links, .addSimHits t.simHits,
    .addTracks t.tracks]

/-- The steps that write a record into its group. -/
def changes (r : Event.Record α) : List (Change α) :=
  [.attribute "run_number" (.int r.run),
    .attribute "event_number" (.int r.number),
    .attribute "event_type" (.int r.type),
    .attribute "collections" (.text (namesText r)),
    .openCollections] ++
  r.collections.flatMap collectionChanges ++
  (r.truth.map truthChanges).getD []

end PixelTelescope.Run
