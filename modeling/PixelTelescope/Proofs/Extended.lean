import PixelTelescope.Proofs.Reals

namespace PixelTelescope

/-- Exact numbers together with what floating point has beside them. -/
inductive Extended where
  | real (x : ℝ)
  | infinite (negative : Bool)
  | nan

namespace Extended

def IsReal : Extended → Prop
  | .real _ => True
  | _ => False

noncomputable def add : Extended → Extended → Extended
  | .real x, .real y => .real (x + y)
  | .real _, .infinite n => .infinite n
  | .infinite n, .real _ => .infinite n
  | .infinite n, .infinite m => if n = m then .infinite n else .nan
  | _, _ => .nan

def neg : Extended → Extended
  | .real x => .real (-x)
  | .infinite n => .infinite !n
  | .nan => .nan

noncomputable def scale (n : Bool) (x : ℝ) : Extended :=
  if x = 0 then .nan else .infinite (n ^^ decide (x < 0))

noncomputable def mul : Extended → Extended → Extended
  | .real x, .real y => .real (x * y)
  | .real x, .infinite n => scale n x
  | .infinite n, .real x => scale n x
  | .infinite n, .infinite m => .infinite (n ^^ m)
  | _, _ => .nan

/-- There is one zero only: a quotient by it has the sign of its dividend. -/
noncomputable def div : Extended → Extended → Extended
  | .real x, .real y => if y = 0 then scale false x else .real (x / y)
  | .real _, .infinite _ => .real 0
  | .infinite n, .real y => .infinite (n ^^ decide (y < 0))
  | _, _ => .nan

noncomputable def lift (f : ℝ → ℝ) : Extended → Extended
  | .real x => .real (f x)
  | _ => .nan

noncomputable def sqrt : Extended → Extended
  | .real x => if x < 0 then .nan else .real √x
  | .infinite false => .infinite false
  | _ => .nan

/-- Seen from an infinite number every real one lies at zero. -/
noncomputable def arctan2 : Extended → Extended → Extended
  | .real y, .real x => .real (Scalar.arctan2 y x)
  | .real y, .infinite n => .real (if n then (if y < 0 then -Real.pi else Real.pi) else 0)
  | .infinite n, .real _ => .real (Scalar.arctan2 (if n then (-1 : ℝ) else 1) 0)
  | .infinite n, .infinite m =>
    .real (Scalar.arctan2 (if n then (-1 : ℝ) else 1) (if m then (-1 : ℝ) else 1))
  | _, _ => .nan

/-- An infinite leg makes the other one irrelevant, even one that is no number. -/
noncomputable def hypot : Extended → Extended → Extended
  | .real x, .real y => .real (Scalar.hypot x y)
  | .infinite _, _ => .infinite false
  | _, .infinite _ => .infinite false
  | _, _ => .nan

def abs : Extended → Extended
  | .real x => .real |x|
  | .infinite _ => .infinite false
  | .nan => .nan

noncomputable def floor : Extended → Extended
  | .real x => .real ⌊x⌋
  | x => x

noncomputable def less : Extended → Extended → Bool
  | .real x, .real y => decide (x < y)
  | .real _, .infinite n => !n
  | .infinite n, .real _ => n
  | .infinite n, .infinite m => n && !m
  | _, _ => false

noncomputable def equal : Extended → Extended → Bool
  | .real x, .real y => decide (x = y)
  | .infinite n, .infinite m => n == m
  | _, _ => false

noncomputable def readPlain (cs : List Char) : Option Extended :=
  let (negative, body) := Text.splitSign cs
  let word := Text.lower body
  if word = "inf".toList || word = "infinity".toList then some (.infinite negative)
  else if word = "nan".toList then some .nan
  else (Text.readNumeral body).map fun n => .real (if negative then -n.real else n.real)

noncomputable def read (s : String) : Option Extended := do
  let cs ← Text.plain? s.toList
  let digits ← Text.joinDigits (Text.trimBoth Text.isAsciiBlank cs)
  readPlain digits

noncomputable def truncate : Extended → Except NumberFault Int
  | .real x => Scalar.truncate x
  | .infinite _ => .error .outOfRange
  | .nan => .error .malformed

/-- Nothing is rounded, and no product is too large. -/
noncomputable instance : Scalar Extended where
  add := add
  sub x y := add x (neg y)
  mul := mul
  div := div
  neg := neg
  ofScientific digits negative exponent :=
    .real (OfScientific.ofScientific digits negative exponent)
  pi := .real Real.pi
  sqrt := sqrt
  sin := lift Real.sin
  cos := lift Real.cos
  arctan2 := arctan2
  hypot := hypot
  abs := abs
  floor := floor
  less := less
  equal := equal
  ofInt? n := some (.real n)
  ofText? := read
  truncate := truncate
  nan := .nan

theorem real_div (x : ℝ) {y : ℝ} (h : y ≠ 0) : real x / real y = real (x / y) := if_neg h

theorem pi_eq : (Scalar.pi : Extended) = real Real.pi := rfl

theorem real_numeral (digits : ℕ) (negative : Bool) (exponent : ℕ) :
    (OfScientific.ofScientific digits negative exponent : Extended) =
      real (OfScientific.ofScientific digits negative exponent) := rfl

@[simp] theorem isReal_real (x : ℝ) : (real x).IsReal := trivial

@[simp] theorem not_isReal_infinite (n : Bool) : ¬ (infinite n).IsReal := id

@[simp] theorem not_isReal_nan : ¬ nan.IsReal := id

variable {x y : Extended}

@[simp] theorem isReal_add : (x + y).IsReal ↔ x.IsReal ∧ y.IsReal := by
  change (add x y).IsReal ↔ _
  cases x with
  | infinite n =>
    cases y with
    | infinite m =>
      rw [add]
      split <;> simp
    | _ => simp [add]
  | _ => cases y <;> simp [add]

@[simp] theorem isReal_neg : (-x).IsReal ↔ x.IsReal := by
  cases x <;> exact Iff.rfl

@[simp] theorem isReal_sub : (x - y).IsReal ↔ x.IsReal ∧ y.IsReal := by
  change (x + -y).IsReal ↔ _
  rw [isReal_add, isReal_neg]

theorem not_isReal_scale (n : Bool) (x : ℝ) : ¬ (scale n x).IsReal := by
  rw [scale]
  split <;> simp

@[simp] theorem isReal_mul : (x * y).IsReal ↔ x.IsReal ∧ y.IsReal := by
  change (mul x y).IsReal ↔ _
  cases x <;> cases y <;> simp [mul, not_isReal_scale]

@[simp] theorem isReal_sin : (Scalar.sin x).IsReal ↔ x.IsReal := by
  cases x <;> exact Iff.rfl

@[simp] theorem isReal_cos : (Scalar.cos x).IsReal ↔ x.IsReal := by
  cases x <;> exact Iff.rfl

@[simp] theorem isReal_numeral (digits : ℕ) (negative : Bool) (exponent : ℕ) :
    (OfScientific.ofScientific digits negative exponent : Extended).IsReal := trivial

theorem isReal_iff : x.IsReal ↔ ∃ r, x = real r := by
  cases x <;> simp

end Extended

end PixelTelescope
