import PixelTelescope.Bounds
import PixelTelescope.Table.Number
import PixelTelescope.Value.Basic

namespace PixelTelescope.Table

/-- The fields that stand for a value that is missing. -/
def missingMarks : List String := [
  "", "#N/A", "#N/A N/A", "#NA", "-1.#IND", "-1.#QNAN", "-NaN", "-nan", "1.#IND", "1.#QNAN",
  "<NA>", "N/A", "NA", "NULL", "NaN", "None", "n/a", "nan", "null"]

def isMissing (field : String) : Bool := missingMarks.contains field

/-- A missing value is a number that equals none. -/
def missing : Value := .float Text.notANumber

def orMissing (read : String → Value) (field : String) : Value :=
  if isMissing field then missing else read field

/-- A column of texts. -/
def texts (fields : List String) : List Value := fields.map (orMissing .text)

/-- A column in which every field that is there can be read in one way. -/
def read? (read : String → Option Value) (fields : List String) : Option (List Value) :=
  fields.mapM fun field => if isMissing field then some missing else read field

def reals? : List String → Option (List Value) := read? fun s => (readReal s).map .float

def truth? (s : String) : Option Value :=
  match s.map Char.toLower with
  | "true" => some (.bool true)
  | "false" => some (.bool false)
  | _ => none

/-- A column that holds something other than integers. -/
def mixed (fields : List String) : List Value :=
  match reals? fields with
  | some values => values
  | none => (read? truth? fields).getD (texts fields)

/-- The integers in a column up to the first field that is none; missing ones have no value. -/
structure Wholes where
  numbers : List (Option Int)
  stop : Option Whole := none

def wholes (read : String → Whole) : List String → Wholes
  | [] => { numbers := [] }
  | field :: rest =>
    let later := wholes read rest
    if isMissing field then { later with numbers := none :: later.numbers }
    else
      match read field with
      | .number n => { later with numbers := some n :: later.numbers }
      | stop => ⟨[], some stop⟩

namespace Wholes

def hasMissing (w : Wholes) : Bool := w.numbers.contains none

def any (p : Int → Bool) (w : Wholes) : Bool := w.numbers.any fun n => n.any p

/-- Among missing values integers are numbers with a point. -/
def values (w : Wholes) : List Value :=
  if w.hasMissing then
    w.numbers.map fun n => ((n.bind Decimal.ofInt?).map Value.float).getD missing
  else w.numbers.filterMap fun n => n.map Value.int

end Wholes

/-- An integer of 64 bits without a sign. Whatever starts with a minus only counts as
negative. -/
def readUnsigned (s : String) : Whole :=
  match trimStart s with
  | '-' :: _ => .number (-1)
  | _ => readWhole 0 (Bounds.words - 1) s

/-- A column with integers beyond 64 bits with a sign: integers without a sign if nothing is
missing or negative, and texts otherwise. -/
def large (fields : List String) : List Value :=
  let w := wholes readUnsigned fields
  let negative := w.any (· < 0)
  match w.stop with
  | some .noNumber => mixed fields
  | some _ => texts fields
  | none =>
    if w.any (Bounds.greatest64 < ·) && (negative || w.hasMissing) then fields.map .text
    else if negative then texts fields
    else w.values

/-- The values of a column, all of one kind: integers, else numbers, else truth values, else
texts. -/
def column (fields : List String) : List Value :=
  let w := wholes (readWhole Bounds.least64 Bounds.greatest64) fields
  match w.stop with
  | some .noNumber => mixed fields
  | some _ => large fields
  | none => w.values

end PixelTelescope.Table
