import PixelTelescope.Run.Key
import PixelTelescope.Run.Group
import PixelTelescope.Proofs.Text.Digits

namespace PixelTelescope.Run

def keyDigits (number : Int) : List Char :=
  (padded (if number < 0 then 8 else 9) number.natAbs).toList

theorem eventKey_eq (number : Int) : eventKey number =
    String.ofList ((if decide (number < 0) then ['-'] else []) ++ keyDigits number) := by
  apply String.toList_inj.mp
  by_cases h : number < 0 <;> simp [eventKey, keyDigits, h]

theorem keyDigits_digits (number : Int) : Text.AllDigits (keyDigits number) :=
  Text.padded_digits _ _

theorem natOfDigits_keyDigits (number : Int) :
    Text.natOfDigits (keyDigits number) = number.natAbs := Text.natOfDigits_padded _ _

theorem keyDigits_ne_nil (number : Int) : keyDigits number ≠ [] := Text.padded_ne_nil _ _

/-- A key stands for the number that it was made from. -/
theorem integer?_eventKey (number : Int) : Text.integer? (eventKey number) = some number := by
  rw [Text.integer?, eventKey_eq,
    Text.signedDigits?_ofList _ (keyDigits_ne_nil number) (keyDigits_digits number),
    Option.map_some, Text.signedValue_of_natAbs (natOfDigits_keyDigits number)]

/-- A key is read as its number, up to the longest number that is read. -/
theorem readInt_eventKey {number : Int} (h : (keyDigits number).length ≤ Text.digitLimit) :
    Text.readInt (eventKey number) = some number := by
  rw [eventKey_eq]
  exact Text.readInt_signed (keyDigits_ne_nil number) (keyDigits_digits number)
    (natOfDigits_keyDigits number) h

theorem length_keyDigits_of_fits {number : Int} (h : Attribute.fits number = true) :
    (keyDigits number).length ≤ Text.digitLimit := by
  have hn : number.natAbs < 10 ^ 20 := by
    obtain ⟨hl, hu⟩ := by simpa [Attribute.fits] using h
    simp only [Bounds.least64, Bounds.words] at hl hu
    omega
  have hd := (Nat.length_toDigits_le_iff (b := 10) (k := 20) (by decide) (by decide)).mpr hn
  have hw : (if number < 0 then 8 else 9) ≤ 9 := by split <;> omega
  rw [keyDigits, Text.length_padded]
  exact Nat.le_trans (Nat.max_le.mpr ⟨Nat.le_trans hw (by decide), hd⟩) (by decide)

theorem eventKey_injective {m n : Int} (h : eventKey m = eventKey n) : m = n := by
  have hm := integer?_eventKey m
  rw [h, integer?_eventKey n] at hm
  exact (Option.some.inj hm).symm

theorem isStaging_stagingKey (key : String) : isStaging (stagingKey key) = true := by
  simp [isStaging, stagingKey]

theorem isStaging_eventKey (number : Int) : isStaging (eventKey number) = false := by
  have hpoint : '.' ∉ (eventKey number).toList := by
    rw [eventKey_eq, String.toList_ofList]
    intro hm
    rcases List.mem_append.mp hm with hm | hm
    · split at hm <;> simp at hm
    · exact absurd (keyDigits_digits number '.' hm) (by decide)
  rw [isStaging, ← Bool.not_eq_true, List.isPrefixOf_iff_prefix]
  intro hp
  exact hpoint (hp.subset (by decide))

theorem stagingKey_ne_eventKey (key : String) (number : Int) :
    stagingKey key ≠ eventKey number := by
  intro he
  have h := isStaging_stagingKey key
  rw [he, isStaging_eventKey] at h
  contradiction

end PixelTelescope.Run
