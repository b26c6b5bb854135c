import PixelTelescope.Decimal.Shortest

namespace PixelTelescope.Decimal

/-- How a number is set out in text. -/
structure Style where
  /-- Exponents of the leading digit below this are written with `e`. -/
  least : Int
  /-- Exponents of the leading digit from here on are written with `e`. -/
  most : Int
  /-- A whole number keeps one zero after the point. -/
  pointed : Bool
  nan : String
  infinity : String

def zeros (n : Nat) : String := String.ofList (List.replicate n '0')

def exponentText (exponent : Int) : String :=
  let digits := toString exponent.natAbs
  (if exponent < 0 then "e-" else "e+") ++ (if digits.length < 2 then "0" ++ digits else digits)

def positional (pointed : Bool) (text : String) (order : Int) : String :=
  let count : Int := text.length
  if order < 0 then "0." ++ zeros (-order - 1).toNat ++ text
  else if count ≤ order + 1 then
    text ++ zeros (order + 1 - count).toNat ++ (if pointed then ".0" else "")
  else
    String.ofList (text.toList.take (order + 1).toNat) ++ "." ++
      String.ofList (text.toList.drop (order + 1).toNat)

def exponential (text : String) (order : Int) : String :=
  let fraction := text.toList.drop 1
  String.ofList (text.toList.take 1) ++
    (if fraction.isEmpty then "" else "." ++ String.ofList fraction) ++ exponentText order

def Style.layout (style : Style) (d : Digits) : String :=
  let text := toString d.digits
  let order := d.exponent + text.length - 1
  if style.least ≤ order ∧ order < style.most then positional style.pointed text order
  else exponential text order

def Style.write (style : Style) (digits : Nat → Int → Digits) (x : Float) : String :=
  match Binary.ofFloat x with
  | .nan => style.nan
  | .infinite negative => (if negative then "-" else "") ++ style.infinity
  | .finite negative magnitude exponent =>
    (if negative then "-" else "") ++
      if magnitude = 0 then (if style.pointed then "0.0" else "0")
      else style.layout (digits magnitude exponent)

def fraction (magnitude : Nat) (exponent : Int) : Nat × Nat :=
  if 0 ≤ exponent then (magnitude * twoTo exponent.toNat, 1)
  else (magnitude, twoTo (-exponent).toNat)

/-- Full precision: positional between `0.0001` and `10 ^ 16`, always with a point or an
exponent. -/
def fullStyle (nan infinity : String) : Style := ⟨-4, 16, true, nan, infinity⟩

def fullText (x : Float) : String := (fullStyle "nan" "inf").write shortest x

/-- So many significant digits without trailing zeros, as in the geometry file. -/
def rounded (count : Nat) (x : Float) : String :=
  (Style.mk (-4) count false "nan" "inf").write
    (fun magnitude exponent =>
      let (n, d) := fraction magnitude exponent
      (significant count n d).trim count)
    x

/-- One digit after the point, a half rounded to the even one. -/
def tenths (x : Float) : String :=
  match Binary.ofFloat x with
  | .nan => "nan"
  | .infinite negative => (if negative then "-" else "") ++ "inf"
  | .finite negative magnitude exponent =>
    let (n, d) := fraction magnitude exponent
    let count := roundDiv (10 * n) d
    (if negative then "-" else "") ++ toString (count / 10) ++ "." ++ toString (count % 10)

end PixelTelescope.Decimal
