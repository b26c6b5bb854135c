import PixelTelescope.Keyed
import PixelTelescope.Toml.Scan
import PixelTelescope.Value.Basic

namespace PixelTelescope.Toml

abbrev Path := List String

abbrev Fields := List (String × Value)

/-- A document as far as it has been read. -/
structure Draft where
  fields : Fields := []
  /-- Tables that have a header of their own or were closed by one. -/
  declared : List Path := []
  /-- Tables that dotted keys of the current section go through. -/
  opened : List Path := []
  /-- Values that nothing can be added to. -/
  frozen : List Path := []

/-- Changes the table behind a path; missing tables are made on the way, and a list of tables
stands for its last one. -/
def within : Path → (Fields → Option Fields) → Fields → Option Fields
  | [], change, fields => change fields
  | key :: rest, change, fields =>
    match Keyed.get? key fields with
    | none => do
      let inner ← within rest change []
      some (Keyed.put key (.table inner) fields)
    | some (.table inner) => do
      let inner ← within rest change inner
      some (Keyed.put key (.table inner) fields)
    | some (.list items) =>
      match items.getLast? with
      | some (.table inner) => do
        let inner ← within rest change inner
        some (Keyed.put key (.list (items.dropLast ++ [.table inner])) fields)
      | _ => none
    | some _ => none

def appendTable (key : String) (fields : Fields) : Option Fields :=
  match Keyed.get? key fields with
  | none => some (Keyed.put key (.list [.table []]) fields)
  | some (.list items) => some (Keyed.put key (.list (items ++ [.table []])) fields)
  | some _ => none

def addField (key : String) (v : Value) (fields : Fields) : Option Fields :=
  if Keyed.contains key fields then none else some (Keyed.put key v fields)

def isNested : Value → Bool
  | .list _ => true
  | .table _ => true
  | _ => false

namespace Draft

def isFrozen (d : Draft) (path : Path) : Bool := d.frozen.any fun fixed => fixed.isPrefixOf path

/-- A header ends the section before it, and with it the tables that dotted keys opened. -/
def endSection (d : Draft) : Draft :=
  { d with declared := d.declared ++ d.opened, opened := [] }

/-- A header in single brackets. -/
def declareTable (d : Draft) (path : Path) : Option Draft :=
  if d.declared.contains path || d.isFrozen path then none
  else do
    let fields ← within path some d.fields
    some { d with fields, declared := path :: d.declared }

/-- A header in double brackets, which starts a new table in a list. -/
def declareItem (d : Draft) (path : Path) : Option Draft :=
  if d.isFrozen path then none
  else do
    let fields ← within path.dropLast (appendTable (path.getLast?.getD "")) d.fields
    let outside := fun (other : Path) => !path.isPrefixOf other
    some { d with
      fields
      declared := path :: d.declared.filter outside
      frozen := d.frozen.filter outside }

/-- A key with its value, in the section that a header has opened. -/
def assign (d : Draft) (header key : Path) (v : Value) : Option Draft :=
  let through := ((List.range key.length).drop 1).map fun n => header ++ key.take n
  let parent := header ++ key.dropLast
  if through.any d.declared.contains || d.isFrozen parent then none
  else do
    let fields ← within parent (addField (key.getLast?.getD "") v) d.fields
    some { d with
      fields
      opened := d.opened ++ through
      frozen := if isNested v then (header ++ key) :: d.frozen else d.frozen }

/-- A key with its value inside braces. -/
def assignInline (d : Draft) (key : Path) (v : Value) : Option Draft :=
  if d.isFrozen key then none
  else do
    let fields ← within key.dropLast (addField (key.getLast?.getD "") v) d.fields
    some { d with fields, frozen := if isNested v then key :: d.frozen else d.frozen }

end Draft

end PixelTelescope.Toml
