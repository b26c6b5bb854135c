import PixelTelescope.Text.Hex
import PixelTelescope.Toml.Scan
import PixelTelescope.Value.Basic

namespace PixelTelescope.Toml

/-- Digits that go on a number, each with an underscore before it or none. -/
def restRun (digit : Char → Bool) : List Char → List Char × List Char
  | [] => ([], [])
  | [c] => if digit c then ([c], []) else ([], [c])
  | c :: d :: rest =>
    if digit c then
      let (more, after) := restRun digit (d :: rest)
      (c :: more, after)
    else if c = '_' && digit d then
      let (more, after) := restRun digit rest
      (d :: more, after)
    else ([], c :: d :: rest)

def run? (digit : Char → Bool) : List Char → Option (List Char × List Char)
  | c :: rest =>
    if digit c then
      let (more, after) := restRun digit rest
      some (c :: more, after)
    else none
  | [] => none

def ofBase (base : Nat) (digits : List Char) : Int :=
  (digits.foldl (fun n c => base * n + (Text.hexValue? c).getD 0) 0 : Nat)

/-- A whole number in base 16, 8 or 2, which takes no sign. -/
def based? : List Char → Option (Value × List Char)
  | '0' :: 'x' :: rest =>
    (run? (fun c => (Text.hexValue? c).isSome) rest).map fun (ds, after) =>
      (.int (ofBase 16 ds), after)
  | '0' :: 'o' :: rest =>
    (run? (fun c => '0' ≤ c && c ≤ '7') rest).map fun (ds, after) => (.int (ofBase 8 ds), after)
  | '0' :: 'b' :: rest =>
    (run? (fun c => c = '0' || c = '1') rest).map fun (ds, after) => (.int (ofBase 2 ds), after)
  | _ => none

/-- A zero alone or digits that start with none. -/
def whole? : List Char → Option (List Char × List Char)
  | '0' :: rest => some (['0'], rest)
  | cs => run? Text.isDigit cs

def fractionPart (cs : List Char) : List Char × List Char :=
  match cs with
  | '.' :: rest =>
    match run? Text.isDigit rest with
    | some (digits, after) => ('.' :: digits, after)
    | none => ([], cs)
  | _ => ([], cs)

def exponentSign : List Char → List Char × List Char
  | '-' :: rest => (['-'], rest)
  | '+' :: rest => (['+'], rest)
  | cs => ([], cs)

def exponentPart (cs : List Char) : List Char × List Char :=
  match cs with
  | c :: rest =>
    if c = 'e' || c = 'E' then
      let (sign, body) := exponentSign rest
      match run? Text.isDigit body with
      | some (digits, after) => ('e' :: sign ++ digits, after)
      | none => ([], cs)
    else ([], cs)
  | [] => ([], [])

def signedInt (negative : Bool) (digits : List Char) : Except Fault Value :=
  if digits.length > Text.digitLimit then .error .tooLong
  else
    let n : Int := Text.natOfDigits digits
    .ok (.int (if negative then -n else n))

/-- A decimal number; one with a point or an exponent is a float. -/
def decimal? (cs : List Char) : Option (Except Fault Value × List Char) := do
  let (negative, body) := Text.splitSign cs
  let (whole, rest) ← whole? body
  let (fraction, rest) := fractionPart rest
  let (exponent, rest) := exponentPart rest
  if fraction.isEmpty && exponent.isEmpty then some (signedInt negative whole, rest)
  else
    let x ← Text.readPlainFloat (whole ++ fraction ++ exponent)
    some (.ok (.float (Text.signed negative x)), rest)

def special? (cs : List Char) : Option (Value × List Char) :=
  let (negative, body) := Text.splitSign cs
  match body with
  | 'i' :: 'n' :: 'f' :: rest => some (.float (Text.signed negative Text.infinity), rest)
  | 'n' :: 'a' :: 'n' :: rest => some (.float Text.notANumber, rest)
  | _ => none

def scanNumber : Scan (Option Value) := do
  let cs ← get
  match based? cs with
  | some (v, rest) => set rest; return v
  | none =>
    match decimal? cs with
    | some (read, rest) => set rest; return ← (read : Except Fault Value)
    | none =>
      match special? cs with
      | some (v, rest) => set rest; return v
      | none => return none

end PixelTelescope.Toml
