import Mathlib.Algebra.Order.Floor.Semiring
import Mathlib.Data.Rat.Floor
import PixelTelescope.Scalar

namespace PixelTelescope

namespace Decimal

def Binary.value? : Binary → Option ℚ
  | .finite negative magnitude exponent =>
    some ((if negative then -1 else 1) * (magnitude * 2 ^ exponent))
  | _ => none

def towardZero (q : ℚ) : ℤ := if 0 ≤ q then ⌊q⌋ else ⌈q⌉

theorem towardZero_of_nonneg {q : ℚ} (h : 0 ≤ q) : towardZero q = ⌊q⌋ := if_pos h

theorem towardZero_neg {q : ℚ} (h : 0 ≤ q) : towardZero (-q) = -⌊q⌋ := by
  unfold towardZero
  split
  · rename_i hneg
    have hzero : q = 0 := by linarith
    simp [hzero]
  · rw [Int.ceil_neg]

theorem floor_magnitude (magnitude : ℕ) (exponent : ℤ) :
    ⌊(magnitude * 2 ^ exponent : ℚ)⌋ =
      if 0 ≤ exponent then (magnitude * twoTo exponent.toNat : ℤ)
      else (magnitude / twoTo (-exponent).toNat : ℕ) := by
  split
  · rename_i h
    obtain ⟨n, rfl⟩ := Int.eq_ofNat_of_zero_le h
    have hwhole : (magnitude * 2 ^ (n : ℤ) : ℚ) = ((magnitude * 2 ^ n : ℕ) : ℤ) := by
      push_cast
      rw [zpow_natCast]
    rw [hwhole, Int.floor_intCast]
    simp [twoTo]
  · rename_i h
    obtain ⟨n, hn⟩ := Int.eq_ofNat_of_zero_le (show 0 ≤ -exponent by omega)
    obtain rfl : exponent = -(n : ℤ) := by omega
    have hdiv : (magnitude * 2 ^ (-(n : ℤ)) : ℚ) = ((magnitude : ℤ) : ℚ) / ((2 ^ n : ℕ) : ℚ) := by
      rw [zpow_neg, zpow_natCast]
      push_cast
      rfl
    rw [hdiv, Rat.floor_intCast_div_natCast]
    simp [twoTo]

/-- Cutting a double gives its whole part; only a number has one. -/
theorem truncate_eq_ok {x : Float} {n : ℤ} :
    truncate x = .ok n ↔ ∃ q, (Binary.ofFloat x).value? = some q ∧ towardZero q = n := by
  unfold truncate
  cases Binary.ofFloat x with
  | nan => simp [Binary.value?]
  | infinite negative => simp [Binary.value?]
  | finite negative magnitude exponent =>
    have hnonneg : (0 : ℚ) ≤ magnitude * 2 ^ exponent :=
      mul_nonneg (Nat.cast_nonneg _) (zpow_nonneg zero_le_two _)
    cases negative with
    | false =>
      simp [Binary.value?, towardZero_of_nonneg hnonneg, floor_magnitude]
    | true =>
      simp [Binary.value?, towardZero_neg hnonneg, floor_magnitude]

end Decimal

namespace Reading

open Decimal (Binary towardZero)

/-- A coordinate and the whole number that it is cut to; text has to give a whole number itself. -/
inductive CutsTo : Reading Float → ℤ → Prop where
  | whole (n : ℤ) : CutsTo (.whole n) n
  | real {x : Float} {q : ℚ} (h : (Binary.ofFloat x).value? = some q) :
    CutsTo (.real x) (towardZero q)
  | text {s : String} {n : ℤ} (h : Text.readInt s = some n) : CutsTo (.text s) n

theorem toInt_eq_ok {r : Reading Float} {n : ℤ} : r.toInt = .ok n ↔ r.CutsTo n := by
  cases r with
  | whole m =>
    constructor
    · intro h
      obtain rfl := Except.ok.inj h
      exact .whole m
    · intro h
      cases h
      rfl
  | real x =>
    constructor
    · intro h
      obtain ⟨q, hq, rfl⟩ := Decimal.truncate_eq_ok.mp h
      exact .real hq
    · intro h
      cases h with
      | real hq => exact Decimal.truncate_eq_ok.mpr ⟨_, hq, rfl⟩
  | text s =>
    constructor
    · intro h
      rw [toInt] at h
      split at h
      · rename_i m hm
        obtain rfl := Except.ok.inj h
        exact .text hm
      · contradiction
    · intro h
      cases h with
      | text hn => simp only [toInt, hn]
  | absent =>
    constructor
    · intro h
      contradiction
    · intro h
      cases h

end Reading

end PixelTelescope
