import PixelTelescope.Run.Group
import PixelTelescope.Run.Key

namespace PixelTelescope.Run

/-- What is stored of a run: a header and the events under their names. -/
structure File (α : Type) where
  attributes : List (String × Attribute) := []
  events : Option (List (String × Group α)) := none
  deriving Repr, DecidableEq

/-- A step of writing an event into the file. -/
inductive Step (α : Type) where
  | create (name : String)
  | change (name : String) (c : Change α)
  | rename (name newName : String)
  | setCount (n : Nat)
  | flush

variable {α : Type}

namespace File

def groups (f : File α) : List (String × Group α) := f.events.getD []

def hasEvent (f : File α) (name : String) : Bool := Keyed.contains name f.groups

def setCount (f : File α) (n : Nat) : File α :=
  { f with attributes := Keyed.put "n_events" (.int n) f.attributes }

def create (f : File α) (name : String) : Except StoreFault (File α) :=
  if f.hasEvent name then .error .refused
  else .ok { f with events := some (f.groups ++ [(name, {})]) }

def change (f : File α) (name : String) (c : Change α) : Except StoreFault (File α) :=
  match Keyed.get? name f.groups with
  | none => .error .refused
  | some g => do
    let g ← g.apply c
    return { f with events := some (Keyed.put name g f.groups) }

def rename (f : File α) (name newName : String) : Except StoreFault (File α) :=
  match Keyed.get? name f.groups with
  | none => .error .refused
  | some g =>
    if f.hasEvent newName then .error .refused
    else .ok { f with events := some (Keyed.erase name f.groups ++ [(newName, g)]) }

def remove (f : File α) (name : String) : File α :=
  { f with events := some (Keyed.erase name f.groups) }

def apply (f : File α) : Step α → Except StoreFault (File α)
  | .create name => f.create name
  | .change name c => f.change name c
  | .rename name newName => f.rename name newName
  | .setCount n => .ok (f.setCount n)
  | .flush => .ok f

end File

def formatVersion : String := "1.0"

def software : String := "pxwriter 0.1.0"

/-- What the header of a new file gets, one after the other. -/
def headerAttributes (run : Int) (detector : String) (config : Option String) :
    List (String × Attribute) :=
  [("format_version", .text formatVersion), ("software", .text software), ("run_number", .int run),
    ("detector_name", .text detector), ("n_events", .int 0)] ++
  (config.map fun s => ("config_text", Attribute.text s)).toList

/-- Why an attribute cannot be stored. -/
def attributeFailure : Attribute → Failure
  | .int _ => .number .unsupported
  | .text _ => .number .malformed

/-- Writes attributes up to the first that cannot be stored. -/
def writeAttributes (f : File α) : List (String × Attribute) → File α × Option Failure
  | [] => (f, none)
  | (name, a) :: rest =>
    if a.isStorable then
      writeAttributes { f with attributes := Keyed.put name a f.attributes } rest
    else (f, some (attributeFailure a))

/-- A new file, as far as its header can be written. -/
def File.begin (run : Int) (detector : String) (config : Option String) : File α × Option Failure :=
  match writeAttributes {} (headerAttributes run detector config) with
  | (f, none) => ({ f with events := some [] }, none)
  | (f, some failure) => (f, some failure)

/-- The steps that store an event under its staging name and then give it its own. -/
def eventSteps (count : Nat) (r : Event.Record α) : List (Step α) :=
  let key := eventKey r.number
  let staging := stagingKey key
  .create staging :: (changes r).map (.change staging) ++
    [.rename staging key, .setCount (count + 1), .flush]

end PixelTelescope.Run
