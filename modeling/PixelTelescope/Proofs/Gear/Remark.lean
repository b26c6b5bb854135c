import PixelTelescope.Gear.Text
import PixelTelescope.Proofs.Markup.Dashes

namespace PixelTelescope.Gear

open Markup (Passes hasPair hasPair_iff_infix pairs parted)

theorem toList_remark (name : String) : (remark name).toList = parted name.toList := by
  rw [remark, String.toList_ofList, Markup.separated_eq_parted]

theorem hasPair_remark (name : String) : hasPair (remark name).toList = false := by
  rw [toList_remark, Markup.hasPair_parted]

theorem remark_of_no_pair {name : String} (h : hasPair name.toList = false) : remark name = name :=
  String.toList_inj.mp (by rw [toList_remark, Markup.parted_of_no_pair h])

/-- However many dashes a name holds in a row, the loop ends after two passes at most, and all that
it does is to put one blank between each two of them. -/
theorem remark_parts_dashes (name : String) :
    (∃ n, Passes n name.toList (remark name).toList) ∧
      (∀ n result, Passes n name.toList result → n ≤ 2 ∧ result = (remark name).toList) ∧
      (remark name).toList = parted name.toList ∧
      (remark name).length = name.length + pairs name.toList ∧
      ¬ ['-', '-'] <:+: (remark name).toList ∧
      (remark name = name ↔ ¬ ['-', '-'] <:+: name.toList) ∧
      remark (remark name) = remark name := by
  have hloop : ∃ n, Passes n name.toList (remark name).toList := by
    rw [remark, String.toList_ofList]
    exact Markup.passes_separated name.toList
  have hno : ¬ ['-', '-'] <:+: (remark name).toList := by
    rw [← hasPair_iff_infix, hasPair_remark]
    exact Bool.false_ne_true
  refine ⟨hloop, ?_, toList_remark name, ?_, hno, ⟨?_, ?_⟩, ?_⟩
  · intro n result h
    exact ⟨h.le_two, by rw [h.eq_parted, toList_remark]⟩
  · rw [← String.length_toList, ← String.length_toList, toList_remark, Markup.length_parted]
  · intro hsame
    rwa [hsame] at hno
  · intro hnone
    exact remark_of_no_pair (by rwa [← Bool.not_eq_true, hasPair_iff_infix])
  · exact remark_of_no_pair (hasPair_remark name)

end PixelTelescope.Gear
