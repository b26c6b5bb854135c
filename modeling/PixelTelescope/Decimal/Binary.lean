namespace PixelTelescope.Decimal

/-- A power of two. -/
abbrev twoTo (n : Nat) : Nat := Nat.pow 2 n

/-- A power of ten. -/
abbrev tenTo (n : Nat) : Nat := Nat.pow 10 n

/-- What the 64 bits of a double stand for: `magnitude * 2 ^ exponent` when it is finite. -/
inductive Binary where
  | nan
  | infinite (negative : Bool)
  | finite (negative : Bool) (magnitude : Nat) (exponent : Int)
  deriving Repr, DecidableEq

def Binary.ofBits (bits : UInt64) : Binary :=
  let word := bits.toNat
  let negative := word / twoTo 63 == 1
  let field : Nat := word / twoTo 52 % twoTo 11
  let fraction : Nat := word % twoTo 52
  if field = 2047 then
    if fraction = 0 then .infinite negative else .nan
  else if field = 0 then .finite negative fraction (-1074)
  else .finite negative (twoTo 52 + fraction) ((field : Int) - 1075)

def Binary.ofFloat (x : Float) : Binary := .ofBits x.toBits

def signBit (negative : Bool) : Nat := if negative then twoTo 63 else 0

/-- A magnitude above `2 ^ 53` is taken for overflow. -/
def packBits (negative : Bool) (magnitude : Nat) (exponent : Int) : UInt64 :=
  let word :=
    if magnitude < twoTo 52 then magnitude
    else
      let field := (exponent + 1075).toNat
      if field < 2047 then field * twoTo 52 + (magnitude - twoTo 52) else 2047 * twoTo 52
  UInt64.ofNat (signBit negative + word)

/-- Quotient rounded to the nearest whole number, a half to the even one. -/
def roundDiv (numerator denominator : Nat) : Nat :=
  let quotient := numerator / denominator
  let twice := 2 * (numerator % denominator)
  if twice < denominator then quotient
  else if twice > denominator then quotient + 1
  else if quotient % 2 = 0 then quotient else quotient + 1

/-- Numerator and denominator of `numerator / denominator * 2 ^ (-exponent)`. -/
def shifted (numerator denominator : Nat) (exponent : Int) : Nat × Nat :=
  if 0 ≤ exponent then (numerator, denominator * twoTo exponent.toNat)
  else (numerator * twoTo (-exponent).toNat, denominator)

/-- The exponent that leaves 53 binary digits before the point, no smaller than that of the
subnormal numbers. -/
def exponentOf (numerator denominator : Nat) : Int :=
  let guess : Int := (Nat.log2 numerator : Int) - Nat.log2 denominator - 52
  let (n, d) := shifted numerator denominator guess
  let exact := if n < twoTo 52 * d then guess - 1 else guess
  max exact (-1074)

/-- The double nearest to a fraction. -/
def nearestBits (negative : Bool) (numerator denominator : Nat) : UInt64 :=
  if numerator = 0 then UInt64.ofNat (signBit negative)
  else
    let exponent := exponentOf numerator denominator
    let (n, d) := shifted numerator denominator exponent
    let magnitude := roundDiv n d
    if magnitude = twoTo 53 then packBits negative (twoTo 52) (exponent + 1)
    else packBits negative magnitude exponent

def nearest (negative : Bool) (numerator denominator : Nat) : Float :=
  Float.ofBits (nearestBits negative numerator denominator)

def decimalDigits (n : Nat) : Nat := (Nat.toDigits 10 n).length

/-- The double nearest to `digits * 10 ^ exponent`. Numbers beyond every double are settled by
their order of magnitude alone. -/
def scientific (negative : Bool) (digits : Nat) (exponent : Int) : Float :=
  let order := (decimalDigits digits : Int) + exponent
  if digits = 0 then nearest negative 0 1
  else if order > 310 then Float.ofBits (packBits negative (twoTo 52) 972)
  else if order < -330 then nearest negative 0 1
  else if 0 ≤ exponent then nearest negative (digits * tenTo exponent.toNat) 1
  else nearest negative digits (tenTo (-exponent).toNat)

/-- The least whole number that is not rounded to a double: half way from the greatest double to
the next power of two. -/
def overflow : Nat := twoTo 1024 - twoTo 970

/-- The double nearest to an integer, unless it lies beyond every double. -/
def ofInt? (n : Int) : Option Float :=
  if n.natAbs < overflow then some (nearest (n < 0) n.natAbs 1) else none

end PixelTelescope.Decimal
