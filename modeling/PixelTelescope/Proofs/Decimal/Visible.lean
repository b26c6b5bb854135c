import PixelTelescope.Decimal.Layout
import PixelTelescope.Proofs.Text.Digits

namespace PixelTelescope

def Text.Visible (s : String) : Prop := ∀ c ∈ s.toList, 32 ≤ c.toNat ∧ c.toNat < 127

instance (s : String) : Decidable (Text.Visible s) := List.decidableBAll _ _

namespace Text

variable {s t : String}

@[simp] theorem visible_append : Visible (s ++ t) ↔ Visible s ∧ Visible t := by
  simp only [Visible, String.toList_append, List.forall_mem_append]

theorem Visible.of_subset (h : Visible s) {cs : List Char} (hsub : cs ⊆ s.toList) :
    Visible (.ofList cs) := by
  intro c hc
  rw [String.toList_ofList] at hc
  exact h c (hsub hc)

theorem visible_digits {cs : List Char} (h : AllDigits cs) : Visible (.ofList cs) := by
  intro c hc
  rw [String.toList_ofList] at hc
  have hdigit := isDigit_iff.mp (h c hc)
  omega

theorem visible_nat (n : Nat) : Visible (toString n) :=
  visible_digits fun _ hc => isDigit_of_mem_toDigits hc

theorem visible_int (n : Int) : Visible (toString n) := by
  rw [toString_int, String.ofList_append, visible_append]
  refine ⟨?_, visible_nat _⟩
  split
  · exact (by decide : Visible "-")
  · exact (by decide : Visible "")

end Text

namespace Decimal

open Text

theorem visible_zeros (n : Nat) : Visible (zeros n) :=
  visible_digits fun _ hc => (List.eq_of_mem_replicate hc).symm ▸ rfl

theorem visible_exponent (n : Int) : Visible (exponentText n) := by
  have hdigits := visible_nat n.natAbs
  unfold exponentText
  rw [visible_append]
  constructor
  · split <;> decide
  · split
    · exact visible_append.mpr ⟨by decide, hdigits⟩
    · exact hdigits

theorem visible_positional {text : String} (h : Visible text) (pointed : Bool) (order : Int) :
    Visible (positional pointed text order) := by
  unfold positional
  dsimp only
  split
  · exact visible_append.mpr ⟨visible_append.mpr ⟨by decide, visible_zeros _⟩, h⟩
  · split
    · refine visible_append.mpr ⟨visible_append.mpr ⟨h, visible_zeros _⟩, ?_⟩
      split <;> decide
    · exact visible_append.mpr ⟨visible_append.mpr ⟨h.of_subset (List.take_subset _ _), by decide⟩,
        h.of_subset (List.drop_subset _ _)⟩

theorem visible_exponential {text : String} (h : Visible text) (order : Int) :
    Visible (exponential text order) := by
  refine visible_append.mpr ⟨visible_append.mpr ⟨h.of_subset (List.take_subset _ _), ?_⟩,
    visible_exponent order⟩
  split
  · decide
  · exact visible_append.mpr ⟨by decide, h.of_subset (List.drop_subset _ _)⟩

theorem visible_layout (style : Style) (d : Digits) : Visible (style.layout d) := by
  unfold Style.layout
  dsimp only
  split
  · exact visible_positional (visible_nat _) _ _
  · exact visible_exponential (visible_nat _) _

theorem visible_sign (negative : Bool) : Visible (if negative then "-" else "") := by
  cases negative <;> decide

theorem visible_write {style : Style} (hnan : Visible style.nan)
    (hinfinity : Visible style.infinity) (digits : Nat → Int → Digits) (x : Float) :
    Visible (style.write digits x) := by
  unfold Style.write
  split
  · exact hnan
  · exact visible_append.mpr ⟨visible_sign _, hinfinity⟩
  · refine visible_append.mpr ⟨visible_sign _, ?_⟩
    split
    · split <;> decide
    · exact visible_layout _ _

theorem visible_rounded (count : Nat) (x : Float) : Visible (rounded count x) :=
  visible_write (by decide : Visible "nan") (by decide : Visible "inf") _ x

theorem visible_tenths (x : Float) : Visible (tenths x) := by
  unfold tenths
  split
  · decide
  · exact visible_append.mpr ⟨visible_sign _, by decide⟩
  · exact visible_append.mpr ⟨visible_append.mpr ⟨visible_append.mpr ⟨visible_sign _,
      visible_nat _⟩, by decide⟩, visible_nat _⟩

end Decimal

end PixelTelescope
