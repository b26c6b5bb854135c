import PixelTelescope.Text.Blank

namespace PixelTelescope.Table

/-- Where the reading of a line stands. -/
inductive Spot where
  /-- At most blanks have come since the line began. -/
  | lineStart
  | fieldStart
  | inField
  | inQuotes
  /-- Behind a quote that ends the quoted part unless another quote follows. -/
  | behindQuote
  deriving Repr, DecidableEq

/-- The part of a table that has been read; characters, fields and lines stand last first. -/
structure Draft where
  spot : Spot := .lineStart
  field : List Char := []
  fields : List String := []
  lines : List (List String) := []

namespace Draft

def push (d : Draft) (spot : Spot) (c : Char) : Draft := { d with spot, field := c :: d.field }

def endField (d : Draft) : Draft :=
  { d with
    spot := .fieldStart
    field := []
    fields := String.ofList d.field.reverse :: d.fields }

def endLine (d : Draft) : Draft :=
  let d := d.endField
  { lines := d.fields.reverse :: d.lines }

def isLineEnd (c : Char) : Bool := c == '\n' || c == '\x0d'

def isMargin (c : Char) : Bool := c == ' ' || c == '\t'

def inField (d : Draft) (c : Char) : Draft :=
  if isLineEnd c then d.endLine
  else if c = ',' then d.endField
  else d.push .inField c

def atFieldStart (d : Draft) (c : Char) : Draft :=
  if c = '"' then { d with spot := .inQuotes } else d.inField c

/-- Reads one more character. A line of blanks alone is no line of the table. -/
def step (d : Draft) (c : Char) : Draft :=
  match d.spot with
  | .lineStart =>
    if isLineEnd c then { d with field := [] }
    else if isMargin c then d.push .lineStart c
    else if d.field.isEmpty then d.atFieldStart c
    else d.inField c
  | .fieldStart => d.atFieldStart c
  | .inField => d.inField c
  | .inQuotes => if c = '"' then { d with spot := .behindQuote } else d.push .inQuotes c
  | .behindQuote => if c = '"' then d.push .inQuotes c else d.inField c

end Draft

/-- The byte order mark that may stand in front of a text. -/
def withoutMark : List Char → List Char
  | '\ufeff' :: rest => rest
  | cs => cs

/-- The lines of a table in fields, unless a quote is left open. -/
def lines? (text : String) : Option (List (List String)) :=
  let d := (withoutMark text.toList).foldl Draft.step {}
  match d.spot with
  | .inQuotes => none
  | .lineStart => some d.lines.reverse
  | _ => some d.endLine.lines.reverse

end PixelTelescope.Table
