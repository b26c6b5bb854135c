import PixelTelescope.Bounds
import PixelTelescope.Config.Checked
import PixelTelescope.Decimal.Binary
import PixelTelescope.Scalar

namespace PixelTelescope.Config

/-- Single underscores inside are left out; none is taken at an end or beside another one. -/
def dropUnderscores? (cs : List Char) : Option (List Char) :=
  if cs.head? = some '_' || cs.getLast? = some '_' || !cs.contains '_' then none
  else if (cs.zip (cs.drop 1)).contains ('_', '_') then none
  else some (cs.filter (· ≠ '_'))

/-- The text of a whole number without zeros in front. -/
def plainWhole? (cs : List Char) : Except Complaint Int :=
  let (negative, body) := match cs with
    | '-' :: rest => (true, rest)
    | _ => (false, cs)
  match body with
  | ['0'] => .ok 0
  | '0' :: _ => .error .unreadableWhole
  | _ =>
    if body.isEmpty || !body.all Text.isDigit then .error .unreadableWhole
    else if cs.length > Text.digitLimit then .error .wholeTooLong
    else
      let n : Int := Text.natOfDigits body
      .ok (if negative then -n else n)

/-- Leaves out zeros, and underscores among them, before the first other digit; the last zero is
kept before a point and at the end. -/
def dropZeros (previous : Char) : List Char → Option (List Char)
  | [] => some [previous]
  | c :: rest =>
    if c = '0' || c = '_' then dropZeros c rest
    else if Text.isDigit c then some (c :: rest)
    else if c = '.' then some (previous :: c :: rest)
    else none

def dropLeadingZeros (cs : List Char) : Option (List Char) :=
  match cs with
  | '0' :: rest => dropZeros '0' rest
  | c :: _ => if Text.isDigit c || c = '-' then some cs else none
  | [] => none

/-- A point that only zeros follow is left out with them. -/
def dropZeroFraction (cs : List Char) : List Char :=
  match cs.dropWhile (· ≠ '.') with
  | _ :: fraction => if fraction.all (· = '0') then cs.takeWhile (· ≠ '.') else cs
  | [] => cs

def dropPlus (cs : List Char) : Option (List Char) :=
  match cs with
  | '+' :: '-' :: _ => none
  | '+' :: rest => some rest
  | _ => some cs

def wholeOfText (s : String) : Except Complaint Int :=
  let cs := Text.trimBoth Text.isBlank s.toList
  match plainWhole? cs with
  | .error .unreadableWhole =>
    match (dropPlus cs).bind dropLeadingZeros with
    | none => .error .unreadableWhole
    | some digits =>
      let digits := dropZeroFraction digits
      plainWhole? ((dropUnderscores? digits).getD digits)
  | other => other

/-- A float without a fraction within 64 bits. -/
def wholeOfFloat (x : Float) : Except Complaint Int :=
  match Decimal.truncate x with
  | .error _ => .error .notFinite
  | .ok n =>
    if x.floor != x then .error .fractional
    else if Bounds.least64 < n ∧ n ≤ Bounds.greatest64 then .ok n
    else .error .wholeTooLong

def accept {α : Type} : Except Complaint α → Checked α
  | .ok x => .ok x
  | .error complaint => .refuse complaint

def asWhole : Value → Checked Int
  | .int n => .ok n
  | .bool b => .ok (if b then 1 else 0)
  | .text s => accept (wholeOfText s)
  | .float x => accept (wholeOfFloat x)
  | _ => .refuse .notWhole

def numberOfText (s : String) : Option Float :=
  match Text.readPlainFloat (Text.trimBoth Text.isBlank s.toList) with
  | some x => some x
  | none => (dropUnderscores? s.toList).bind Text.readPlainFloat

def asNumber : Value → Checked Float
  | .float x => .ok x
  | .bool b => .ok (if b then 1.0 else 0.0)
  | .int n =>
    match Decimal.ofInt? n with
    | some x => .ok x
    | none => .refuse .notNumber
  | .text s =>
    match numberOfText s with
    | some x => .ok x
    | none => .refuse .unreadableNumber
  | _ => .refuse .notNumber

def truthOfWhole (n : Int) : Checked Bool :=
  if n = 0 then .ok false else if n = 1 then .ok true else .refuse .unreadableTruth

def asTruth : Value → Checked Bool
  | .bool b => .ok b
  | .text s =>
    let word := String.ofList (Text.lower s.toList)
    if ["0", "f", "n", "no", "off", "false"].contains word then .ok false
    else if ["1", "t", "y", "on", "yes", "true"].contains word then .ok true
    else .refuse .unreadableTruth
  | .int n => if Bounds.fits64 n then truthOfWhole n else .refuse .notTruth
  | .float x =>
    match wholeOfFloat x with
    | .ok n => truthOfWhole n
    | .error _ => .refuse .notTruth
  | _ => .refuse .notTruth

def asText : Value → Checked String
  | .text s => .ok s
  | _ => .refuse .notText

/-- One of a few values. -/
def asChoice {α : Type} (choose : Value → Option α) (v : Value) : Checked α :=
  match choose v with
  | some x => .ok x
  | none => .refuse .notChoice

/-- One of a few words. -/
def asWord {α : Type} (ofText? : String → Option α) : Value → Checked α :=
  asChoice fun
    | .text s => ofText? s
    | _ => none

/-- The first reading that fits; if none does, all complaints, each under its reading's name. -/
def either {α : Type} (firstName : String) (first : Value → Checked α) (secondName : String)
    (second : Value → Checked α) (v : Value) : Checked α :=
  match first v with
  | .ok x => .ok x
  | .error r =>
    match second v with
    | .ok x => .ok x
    | .error s => .error ((r.under (.field firstName)).join (s.under (.field secondName)))

end PixelTelescope.Config
