import PixelTelescope.Text.Blank
import PixelTelescope.Text.DecimalDigit
import PixelTelescope.Decimal.Binary

namespace PixelTelescope.Text

/-- Wide blanks become blanks and digits of any script ASCII digits; text that holds any other
wide character is no number. Pure ASCII text stays as it is. -/
def plainChar? (c : Char) : Option Char :=
  if c.toNat < 127 then some c
  else if isWideBlank c then some ' '
  else (decimalDigit? c).map fun n => Char.ofNat (48 + n)

def plain? (cs : List Char) : Option (List Char) := cs.mapM plainChar?

def isDigit (c : Char) : Bool := '0' ≤ c && c ≤ '9'

def digitValue (c : Char) : Nat := c.toNat - 48

/-- The value of a run of ASCII digits. -/
def natOfDigits (cs : List Char) : Nat := cs.foldl (fun n c => 10 * n + digitValue c) 0

/-- Takes out the underscores, each of which has to stand between two digits. -/
def joinDigits : List Char → Option (List Char)
  | [] => some []
  | '_' :: _ => none
  | c :: '_' :: d :: rest =>
    if isDigit c && isDigit d then (joinDigits (d :: rest)).map (c :: ·) else none
  | c :: rest => (joinDigits rest).map (c :: ·)

def splitSign : List Char → Bool × List Char
  | '-' :: rest => (true, rest)
  | '+' :: rest => (false, rest)
  | cs => (false, cs)

/-- The longest run of digits that an integer's text may hold. -/
def digitLimit : Nat := 4300

/-- Whether an integer can be spelled out: its text would hold too many digits otherwise. -/
def isSpellable (n : Int) : Bool := (Nat.toDigits 10 n.natAbs).length ≤ digitLimit

/-- An integer: blanks around it, a sign, digits with single underscores between them. -/
def readInt (s : String) : Option Int := do
  let cs ← plain? s.toList
  let (negative, body) := splitSign (trimBoth isAsciiBlank cs)
  let digits ← joinDigits body
  if digits.isEmpty || !digits.all isDigit || digits.length > digitLimit then none
  else
    let n : Int := natOfDigits digits
    some (if negative then -n else n)

/-- The parts of a decimal numeral without its sign: `digits * 10 ^ exponent`. -/
structure Numeral where
  digits : Nat
  exponent : Int
  deriving Repr, DecidableEq

def readExponent : List Char → Option Int
  | [] => some 0
  | c :: rest =>
    if c = 'e' || c = 'E' then
      let (negative, digits) := splitSign rest
      if digits.isEmpty || !digits.all isDigit then none
      else
        let n : Int := natOfDigits digits
        some (if negative then -n else n)
    else none

/-- Digits with an optional point and an optional exponent; one digit at least before the
exponent. -/
def readNumeral (cs : List Char) : Option Numeral :=
  let whole := cs.takeWhile isDigit
  let rest := cs.dropWhile isDigit
  let (fraction, tail) :=
    match rest with
    | '.' :: after => (after.takeWhile isDigit, after.dropWhile isDigit)
    | _ => ([], rest)
  if whole.isEmpty && fraction.isEmpty then none
  else (readExponent tail).map fun exponent =>
    ⟨natOfDigits (whole ++ fraction), exponent - fraction.length⟩

def lower (cs : List Char) : List Char := cs.map Char.toLower

def signed (negative : Bool) (x : Float) : Float := if negative then -x else x

def infinity : Float := 1.0 / 0.0

def notANumber : Float := 0.0 / 0.0

/-- A number without blanks or underscores, or one of the words for infinity and for no number. -/
def readPlainFloat (cs : List Char) : Option Float :=
  let (negative, body) := splitSign cs
  let word := lower body
  if word = "inf".toList || word = "infinity".toList then some (signed negative infinity)
  else if word = "nan".toList then some notANumber
  else (readNumeral body).map fun n => Decimal.scientific negative n.digits n.exponent

/-- A number with blanks around it and single underscores between digits. -/
def readFloat (s : String) : Option Float := do
  let cs ← plain? s.toList
  let digits ← joinDigits (trimBoth isAsciiBlank cs)
  readPlainFloat digits

end PixelTelescope.Text
