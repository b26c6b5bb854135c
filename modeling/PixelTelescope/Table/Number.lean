import PixelTelescope.Text.Numeral

namespace PixelTelescope.Table

open Text (isAsciiBlank isDigit digitValue natOfDigits splitSign signed)

/-- What a field is when it is read as an integer. -/
inductive Whole where
  | number (n : Int)
  /-- Its digits go beyond the range, whatever follows them. -/
  | outOfRange
  | noNumber
  deriving Repr, DecidableEq

def trimStart (s : String) : List Char := s.toList.dropWhile isAsciiBlank

/-- An integer between two bounds, with blanks around it. -/
def readWhole (least greatest : Int) (s : String) : Whole :=
  let (negative, body) := splitSign (trimStart s)
  let digits := body.takeWhile isDigit
  let n : Int := natOfDigits digits
  let n := if negative then -n else n
  if digits.isEmpty then .noNumber
  else if n < least || greatest < n then .outOfRange
  else if (body.dropWhile isDigit).all isAsciiBlank then .number n
  else .noNumber

/-- How many digits of a numeral are looked at, zeros in front among them. -/
def digitsRead : Nat := 17

/-- The digits of a numeral that count, and the power of ten that they are scaled by. -/
structure Scaled where
  digits : List Char
  exponent : Int

def Scaled.ofParts (whole fraction : List Char) : Scaled :=
  let kept := fraction.take (digitsRead - whole.length)
  ⟨whole.take digitsRead ++ kept, ((whole.length - digitsRead : Nat) : Int) - kept.length⟩

def powerOfTen (n : Nat) : Float := Decimal.scientific false 1 n

/-- The digits taken up one by one and then scaled. Every step rounds, so that the last bit can
differ from that of the nearest double. -/
def Scaled.value? (s : Scaled) (negative : Bool) : Option Float :=
  let sum := s.digits.foldl (fun x c => x * 10.0 + Float.ofNat (digitValue c)) 0.0
  let x := signed negative sum
  let scaled :=
    if 308 < s.exponent then Text.infinity
    else if 0 < s.exponent then x * powerOfTen s.exponent.toNat
    else if s.exponent < -616 then 0.0
    else if s.exponent < -308 then x / powerOfTen (-308 - s.exponent).toNat / powerOfTen 308
    else x / powerOfTen (-s.exponent).toNat
  if scaled.isInf then none else some scaled

/-- The exponent behind a numeral and what follows it. -/
def splitExponent (cs : List Char) : Int × List Char :=
  match cs with
  | [] => (0, [])
  | c :: rest =>
    let (negative, body) := splitSign rest
    let digits := body.takeWhile isDigit
    if (c = 'e' || c = 'E') && !digits.isEmpty then
      let n : Int := natOfDigits digits
      (if negative then -n else n, body.dropWhile isDigit)
    else (0, cs)

def splitFraction : List Char → List Char × List Char
  | '.' :: rest => (rest.takeWhile isDigit, rest.dropWhile isDigit)
  | cs => ([], cs)

def readNumeral (s : String) : Option Float :=
  let (negative, body) := splitSign (trimStart s)
  let whole := body.takeWhile isDigit
  let (fraction, rest) := splitFraction (body.dropWhile isDigit)
  let (exponent, rest) := splitExponent rest
  if (whole.isEmpty && fraction.isEmpty) || !rest.all isAsciiBlank then none
  else
    let scaled := Scaled.ofParts whole fraction
    { scaled with exponent := scaled.exponent + exponent }.value? negative

/-- A word for infinity, with nothing around it. -/
def readInfinity (s : String) : Option Float :=
  let (negative, body) := splitSign s.toList
  let word := Text.lower body
  if word = "inf".toList || word = "infinity".toList then some (signed negative Text.infinity)
  else none

def readReal (s : String) : Option Float :=
  match readNumeral s with
  | some x => some x
  | none => readInfinity s

end PixelTelescope.Table
