import PixelTelescope.Decimal.Binary

namespace PixelTelescope.Decimal

/-- A positive decimal: `digits` read as a whole number times `10 ^ exponent`. -/
structure Digits where
  digits : Nat
  exponent : Int
  deriving Repr, DecidableEq

def powers (exponent : Int) : Nat × Nat :=
  if 0 ≤ exponent then (tenTo exponent.toNat, 1) else (1, tenTo (-exponent).toNat)

/-- A fraction over four times a double and the ends of the interval that rounds to it. -/
structure Span where
  low : Nat
  value : Nat
  high : Nat
  unit : Nat
  closed : Bool

def Span.of (magnitude : Nat) (exponent : Int) : Span :=
  let scale := if 0 ≤ exponent then twoTo exponent.toNat else 1
  let unit := if 0 ≤ exponent then 4 else 4 * twoTo (-exponent).toNat
  let below := if magnitude = twoTo 52 ∧ exponent > -1074 then 1 else 2
  { low := (4 * magnitude - below) * scale
    value := 4 * magnitude * scale
    high := (4 * magnitude + 2) * scale
    unit := unit
    closed := magnitude % 2 = 0 }

def Span.contains (s : Span) (grid : Int) (candidate : Nat) : Bool :=
  let (up, down) := powers grid
  let point := candidate * up * s.unit
  let low := s.low * down
  let high := s.high * down
  if s.closed then low ≤ point && point ≤ high else low < point && point < high

/-- The nearer of the two neighbours on a grid that lie inside, an even one in a tie. -/
def Span.onGrid (s : Span) (grid : Int) : Option Nat :=
  let (up, down) := powers grid
  let step := s.unit * up
  let value := s.value * down
  let floor := value / step
  let below := floor != 0 && s.contains grid floor
  let above := s.contains grid (floor + 1)
  if below && above then
    let twice := 2 * (value % step)
    if twice < step then some floor
    else if twice > step then some (floor + 1)
    else some (if floor % 2 = 0 then floor else floor + 1)
  else if below then some floor
  else if above then some (floor + 1)
  else none

/-- The largest power of ten not above a fraction. -/
def orderOf (numerator denominator : Nat) : Int :=
  let guess : Int := (decimalDigits numerator : Int) - decimalDigits denominator
  let (up, down) := powers guess
  if numerator * down < denominator * up then guess - 1 else guess

def Digits.trim (d : Digits) : Nat → Digits
  | 0 => d
  | fuel + 1 =>
    if d.digits ≠ 0 ∧ d.digits % 10 = 0 then
      Digits.trim ⟨d.digits / 10, d.exponent + 1⟩ fuel
    else d

/-- The fewest digits that read back as the same double, and of those the nearest. -/
def shortest (magnitude : Nat) (exponent : Int) : Digits :=
  let span := Span.of magnitude exponent
  let order := orderOf span.value span.unit
  match (List.range 17).findSome? fun (index : Nat) =>
      let grid := order - index
      (span.onGrid grid).map fun digits => (⟨digits, grid⟩ : Digits) with
  | some found => found.trim 20
  | none => ⟨0, 0⟩

/-- A fraction rounded to so many significant digits, a half to the even one. -/
def significant (count : Nat) (numerator denominator : Nat) : Digits :=
  let grid := orderOf numerator denominator - count + 1
  let (up, down) := powers grid
  ⟨roundDiv (numerator * down) (denominator * up), grid⟩

end PixelTelescope.Decimal
