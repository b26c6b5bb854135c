import PixelTelescope.Text.Numeral

namespace PixelTelescope

/-- Why a value does not give a number. -/
inductive NumberFault where
  /-- The text or the number has no such form. -/
  | malformed
  /-- The value is of a kind that is never a number. -/
  | unsupported
  /-- The number lies outside the range of its column. -/
  | outOfRange
  deriving Repr, DecidableEq

/-- The numbers that lengths, angles, signals and times are given in. -/
class Scalar (α : Type) extends Add α, Sub α, Mul α, Div α, Neg α, OfScientific α where
  pi : α
  sqrt : α → α
  sin : α → α
  cos : α → α
  /-- The angle of a point, ordinate first. -/
  arctan2 : α → α → α
  hypot : α → α → α
  abs : α → α
  floor : α → α
  less : α → α → Bool
  /-- Equality of values, which no NaN has. -/
  equal : α → α → Bool
  ofInt? : Int → Option α
  ofText? : String → Option α
  /-- The whole part, with the fraction cut off. -/
  truncate : α → Except NumberFault Int
  nan : α

namespace Scalar

variable {α : Type} [Scalar α]

def ofInt (n : Int) : Except NumberFault α :=
  match ofInt? n with
  | some x => .ok x
  | none => .error .outOfRange

def notMore (x y : α) : Bool := less x y || equal x y

end Scalar

namespace Decimal

def truncate (x : Float) : Except NumberFault Int :=
  match Binary.ofFloat x with
  | .nan => .error .malformed
  | .infinite _ => .error .outOfRange
  | .finite negative magnitude exponent =>
    let whole : Int :=
      if 0 ≤ exponent then magnitude * twoTo exponent.toNat
      else (magnitude / twoTo (-exponent).toNat : Nat)
    .ok (if negative then -whole else whole)

/-- The greatest whole number that is not above a number. -/
def floor (x : Float) : Float :=
  match Binary.ofFloat x with
  | .finite negative magnitude exponent =>
    if 0 ≤ exponent || magnitude = 0 then x
    else
      let unit := twoTo (-exponent).toNat
      let whole : Int := (magnitude / unit : Nat)
      let below : Int := if magnitude % unit = 0 then -whole else -whole - 1
      (ofInt? (if negative then below else whole)).getD x
  | _ => x

/-- The larger leg is taken out first, so that neither square overflows. -/
def hypot (x y : Float) : Float :=
  let a := x.abs
  let b := y.abs
  if a.isInf || b.isInf then Text.infinity
  else
    let large := if a < b then b else a
    let small := if a < b then a else b
    if large == 0.0 then 0.0 + (a + b)
    else
      let ratio := small / large
      if large < 1e150 && small > 1e-150 then (a * a + b * b).sqrt
      else large * (1.0 + ratio * ratio).sqrt

end Decimal

instance : Scalar Float where
  pi := 3.141592653589793
  sqrt := Float.sqrt
  sin := Float.sin
  cos := Float.cos
  arctan2 := Float.atan2
  hypot := Decimal.hypot
  abs := Float.abs
  floor := Decimal.floor
  less x y := x < y
  equal x y := x == y
  ofInt? := Decimal.ofInt?
  ofText? := Text.readFloat
  truncate := Decimal.truncate
  nan := Text.notANumber

/-- A number as it was delivered. -/
inductive Reading (α : Type) where
  | whole (n : Int)
  | real (x : α)
  | text (s : String)
  /-- Nothing, or something that is never a number. -/
  | absent
  deriving Repr

namespace Reading

variable {α : Type} [Scalar α]

def toInt : Reading α → Except NumberFault Int
  | .whole n => .ok n
  | .real x => Scalar.truncate x
  | .text s => match Text.readInt s with
    | some n => .ok n
    | none => .error .malformed
  | .absent => .error .unsupported

def toScalar : Reading α → Except NumberFault α
  | .whole n => Scalar.ofInt n
  | .real x => .ok x
  | .text s => match Scalar.ofText? s with
    | some x => .ok x
    | none => .error .malformed
  | .absent => .error .unsupported

/-- The number as it takes part in sums: text has to be read first and so does not. -/
def amount : Reading α → Except NumberFault α
  | .whole n => Scalar.ofInt n
  | .real x => .ok x
  | _ => .error .unsupported

end Reading

end PixelTelescope
