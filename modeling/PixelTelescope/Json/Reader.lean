import PixelTelescope.Keyed
import PixelTelescope.Text.Hex
import PixelTelescope.Value.Basic

namespace PixelTelescope.Json

def isBlank (c : Char) : Bool := c == ' ' || c == '\t' || c == '\n' || c == '\r'

def skip (cs : List Char) : List Char := cs.dropWhile isBlank

def simpleEscape? (c : Char) : Option Char :=
  if c = '"' || c = '\\' || c = '/' then some c
  else if c = 'n' then some '\n'
  else if c = 'r' then some '\r'
  else if c = 't' then some '\t'
  else if c = 'b' then some '\x08'
  else if c = 'f' then some '\x0c'
  else none

def isHigh (n : Nat) : Bool := 0xd800 ≤ n && n < 0xdc00

def isLow (n : Nat) : Bool := 0xdc00 ≤ n && n < 0xe000

/-- A code unit alone; half of a pair stands for no character and is replaced. -/
def unit (n : Nat) : Char := if isHigh n || isLow n then '\ufffd' else Char.ofNat n

def pair (high low : Nat) : Char := Char.ofNat (0x10000 + (high - 0xd800) * 0x400 + (low - 0xdc00))

/-- Characters of a sequence of code points in which pairs of code units may stand. -/
def join : List Nat → List Char
  | [] => []
  | [n] => [unit n]
  | n :: m :: rest =>
    if isHigh n && isLow m then pair n m :: join rest else unit n :: join (m :: rest)

/-- The code points up to the closing quote, and what follows it. -/
def readPoints : List Char → Option (List Nat × List Char)
  | [] => none
  | '"' :: rest => some ([], rest)
  | '\\' :: 'u' :: a :: b :: c :: d :: rest => do
    let point ← Text.hex? [a, b, c, d]
    let (points, after) ← readPoints rest
    some (point :: points, after)
  | '\\' :: c :: rest => do
    let escaped ← simpleEscape? c
    let (points, after) ← readPoints rest
    some (escaped.toNat :: points, after)
  | c :: rest =>
    if c.toNat < 0x20 then none
    else (readPoints rest).map fun (points, after) => (c.toNat :: points, after)

def readText (cs : List Char) : Option (List Char × List Char) :=
  (readPoints cs).map fun (points, after) => (join points, after)

def isNumberChar (c : Char) : Bool :=
  Text.isDigit c || c == '-' || c == '+' || c == '.' || c == 'e' || c == 'E'

/-- Digits alone make an integer; a point or an exponent makes a float. -/
def number? (cs : List Char) : Option Value :=
  let (negative, body) := Text.splitSign cs
  if body.isEmpty then none
  else if body.all Text.isDigit then
    let n : Int := Text.natOfDigits body
    some (.int (if negative then -n else n))
  else (Text.readNumeral body).map fun n =>
    .float (Decimal.scientific negative n.digits n.exponent)

mutual

def readValue : Nat → List Char → Option (Value × List Char)
  | 0, _ => none
  | fuel + 1, cs =>
    match skip cs with
    | 'n' :: 'u' :: 'l' :: 'l' :: rest => some (.null, rest)
    | 't' :: 'r' :: 'u' :: 'e' :: rest => some (.bool true, rest)
    | 'f' :: 'a' :: 'l' :: 's' :: 'e' :: rest => some (.bool false, rest)
    | '"' :: rest => (readText rest).map fun (s, after) => (.text (String.ofList s), after)
    | '[' :: rest =>
      match skip rest with
      | ']' :: after => some (.list [], after)
      | _ => (readItems fuel rest).map fun (items, after) => (.list items, after)
    | '\x7b' :: rest =>
      match skip rest with
      | '\x7d' :: after => some (.table [], after)
      | _ => (readFields fuel rest).map fun (fields, after) =>
        (.table (Keyed.ofPairs fields), after)
    | rest =>
      (number? (rest.takeWhile isNumberChar)).map fun v => (v, rest.dropWhile isNumberChar)

def readItems : Nat → List Char → Option (List Value × List Char)
  | 0, _ => none
  | fuel + 1, cs => do
    let (v, after) ← readValue fuel cs
    match skip after with
    | ',' :: rest =>
      let (items, last) ← readItems fuel rest
      some (v :: items, last)
    | ']' :: rest => some ([v], rest)
    | _ => none

def readFields : Nat → List Char → Option (List (String × Value) × List Char)
  | 0, _ => none
  | fuel + 1, cs =>
    match skip cs with
    | '"' :: start => do
      let (key, after) ← readText start
      match skip after with
      | ':' :: rest =>
        let (v, following) ← readValue fuel rest
        match skip following with
        | ',' :: more =>
          let (fields, last) ← readFields fuel more
          some ((String.ofList key, v) :: fields, last)
        | '\x7d' :: more => some ([(String.ofList key, v)], more)
        | _ => none
      | _ => none
    | _ => none

end

def readChars (cs : List Char) : Option Value :=
  match readValue (cs.length + 1) cs with
  | some (v, rest) => if (skip rest).isEmpty then some v else none
  | none => none

/-- The value of a whole text. -/
def read (s : String) : Option Value := readChars s.toList

end PixelTelescope.Json
