import PixelTelescope.Assignment.Basic
import PixelTelescope.Event.Truth

namespace PixelTelescope.Event

/-- What turns the messages of an event into a record. -/
structure Builder where
  assignment : Assignment
  run : Int := 1
  eventType : Int := 2
  pixelType : PixelType := .timed
  truth : Bool := false

/-- A message with its collection and sensor. -/
structure Route (α : Type) where
  message : Message α
  collection : Nat
  sensorId : Int

/-- A hit with its collection and row. -/
structure Encoded (α : Type) where
  collection : Nat
  row : Row α
  hit : Hit α

variable {α : Type} [Scalar α]

/-- Every hit with its place among the hits of its collection; `before` are the collections of
the hits that stand in front. -/
def place : List Nat → List (Encoded α) → List (Placed α)
  | _, [] => []
  | before, e :: rest =>
    ⟨e.collection, before.count e.collection, e.row, e.hit⟩ :: place (e.collection :: before) rest

namespace Builder

def route (b : Builder) (message : Message α) : Except Failure (Route α) := do
  let collection ← b.assignment.collectionIndex (← b.assignment.collectionFor message.detector)
  return ⟨message, collection, ← b.assignment.sensorIdFor message.detector⟩

/-- Pixels are cut to whole numbers. -/
def encodeHit (b : Builder) (sensorId : Int) (hit : Hit α) : Except Failure (Row α) := do
  let x ← hit.column.toInt
  let y ← hit.row.toInt
  let signal ← hit.signal.toScalar
  match b.pixelType with
  | .simple => return { sensorId, x, y, signal, time := none }
  | .timed => return { sensorId, x, y, signal, time := some (← hit.time.toScalar) }

def encode (b : Builder) (r : Route α) (hit : Hit α) : Except Failure (Encoded α) := do
  return ⟨r.collection, ← b.encodeHit r.sensorId hit, hit⟩

def encodeAll (b : Builder) (routes : List (Route α)) : Except Failure (List (Encoded α)) :=
  (routes.flatMap fun r => r.message.hits.map (r, ·)).mapM fun (r, hit) => b.encode r hit

def collections (b : Builder) (encoded : List (Encoded α)) : List (Collection α) :=
  b.assignment.names.zipIdx.map fun (name, index) =>
    ⟨name, b.pixelType, (encoded.filter (·.collection = index)).map (·.row)⟩

/-- The record of an event. Every message is routed before any hit is looked at. -/
def build (b : Builder) (number : Int) (messages : List (Message α)) :
    Except Failure (Record α) := do
  let encoded ← b.encodeAll (← messages.mapM b.route)
  if encoded.any fun e => !e.row.fits then .error (.number .outOfRange)
  else
    let truth ← if b.truth then some <$> Truth.ofPlaced (place [] encoded) else pure none
    return {
      run := b.run, number, type := b.eventType,
      collections := b.collections encoded, truth }

end Builder

end PixelTelescope.Event
