import PixelTelescope.Text.Numeral
import PixelTelescope.Value.Moment

namespace PixelTelescope.Text

def AllDigits (cs : List Char) : Prop := ∀ c ∈ cs, isDigit c = true

theorem isDigit_iff {c : Char} : isDigit c = true ↔ 48 ≤ c.toNat ∧ c.toNat ≤ 57 := by
  simp only [isDigit, Bool.and_eq_true, decide_eq_true_eq, Char.le_def, UInt32.le_iff_toNat_le]
  exact Iff.rfl

theorem isDigit_of_mem_toDigits {n : Nat} {c : Char} (h : c ∈ Nat.toDigits 10 n) :
    isDigit c = true := by
  have hd := Nat.isDigit_of_mem_toDigits (by decide) (by decide) h
  simp only [Char.isDigit, Bool.and_eq_true, decide_eq_true_eq, ge_iff_le,
    UInt32.le_iff_toNat_le] at hd
  exact isDigit_iff.mpr hd

theorem AllDigits.ascii {cs : List Char} (h : AllDigits cs) : ∀ c ∈ cs, c.toNat < 127 := by
  intro c hc
  have := isDigit_iff.mp (h c hc)
  omega

theorem plain?_of_ascii {cs : List Char} (h : ∀ c ∈ cs, c.toNat < 127) : plain? cs = some cs := by
  induction cs with
  | nil => rfl
  | cons c rest ih =>
    have hc : plainChar? c = some c := by simp [plainChar?, h c (by simp)]
    have hr : rest.mapM plainChar? = some rest := ih fun d hd => h d (by simp [hd])
    simp [plain?, hc, hr]

theorem trimBoth_of_none {class? : Char → Bool} {cs : List Char}
    (h : ∀ c ∈ cs, class? c = false) : trimBoth class? cs = cs := by
  have drop {ds : List Char} (hd : ∀ c ∈ ds, class? c = false) : ds.dropWhile class? = ds := by
    cases ds with
    | nil => rfl
    | cons d rest => simp [hd d (by simp)]
  rw [trimBoth, drop h, drop (fun c hc => h c (by simpa using hc)), List.reverse_reverse]

theorem joinDigits_of_digits {cs : List Char} (h : AllDigits cs) : joinDigits cs = some cs := by
  induction cs with
  | nil => rfl
  | cons c rest ih =>
    have hr : joinDigits rest = some rest := ih fun d hd => h d (by simp [hd])
    have hline : '_' ∉ c :: rest := fun hm => absurd (h '_' hm) (by decide)
    have hc : c ≠ '_' := fun he => hline (by simp [he])
    have hd : ∀ d more, rest = '_' :: d :: more → False := fun d more he => hline (by simp [he])
    rw [joinDigits, hr]
    · rfl
    · exact hc
    · exact hd

theorem isAsciiBlank_of_digit {c : Char} (h : isDigit c = true) : isAsciiBlank c = false := by
  have hd := isDigit_iff.mp h
  have hs : c ≠ ' ' := by
    rintro rfl
    exact absurd h (by decide)
  have hr : ¬ c.toNat ≤ 13 := by omega
  simp [isAsciiBlank, hs, hr]

/-- The sign and the digits of a text that stands for an integer, however many digits these are. -/
def signedDigits? (s : String) : Option (Bool × List Char) := do
  let cs ← plain? s.toList
  let (negative, body) := splitSign (trimBoth isAsciiBlank cs)
  let digits ← joinDigits body
  if digits.isEmpty || !digits.all isDigit then none else some (negative, digits)

def signedValue : Bool × List Char → Int
  | (negative, digits) => if negative then -(natOfDigits digits : Int) else natOfDigits digits

def integer? (s : String) : Option Int := (signedDigits? s).map signedValue

/-- Reading is a matter of what the text stands for, but for the number of its digits. -/
theorem readInt_eq (s : String) :
    readInt s = ((signedDigits? s).filter (·.2.length ≤ digitLimit)).map signedValue := by
  simp only [readInt, signedDigits?, Option.bind_eq_bind]
  cases plain? s.toList with
  | none => rfl
  | some cs =>
    simp only [Option.bind_some]
    cases joinDigits (splitSign (trimBoth isAsciiBlank cs)).2 with
    | none => rfl
    | some digits =>
      simp only [Option.bind_some, Bool.or_eq_true (_ || _), decide_eq_true_eq]
      by_cases hdigits : (digits.isEmpty || !digits.all isDigit) = true
      · simp only [hdigits, true_or, ↓reduceIte, Option.filter_none, Option.map_none]
      · by_cases hlength : digitLimit < digits.length
        · simp [hdigits, hlength, Option.filter]
        · simp [hdigits, hlength, Option.filter, signedValue]

theorem integer?_of_readInt {s : String} {n : Int} (h : readInt s = some n) :
    integer? s = some n := by
  rw [readInt_eq] at h
  obtain ⟨signed, hsigned, hvalue⟩ := Option.map_eq_some_iff.mp h
  obtain ⟨hdigits, -⟩ := Option.filter_eq_some_iff.mp hsigned
  rw [integer?, hdigits, Option.map_some, hvalue]

theorem signedDigits?_ofList (negative : Bool) {cs : List Char} (hne : cs ≠ [])
    (h : AllDigits cs) :
    signedDigits? (String.ofList ((if negative then ['-'] else []) ++ cs)) =
      some (negative, cs) := by
  have hplus : ∀ c ∈ cs, c ≠ '-' ∧ c ≠ '+' := by
    intro c hc
    constructor <;> rintro rfl <;> exact absurd (h _ hc) (by decide)
  have hsplit : splitSign ((if negative then ['-'] else []) ++ cs) = (negative, cs) := by
    cases negative with
    | true => rfl
    | false =>
      cases cs with
      | nil => contradiction
      | cons c rest =>
        obtain ⟨hm, hp⟩ := hplus c (by simp)
        simp [splitSign, hm, hp]
  have hplain : plain? ((if negative then ['-'] else []) ++ cs) =
      some ((if negative then ['-'] else []) ++ cs) := by
    apply plain?_of_ascii
    intro c hc
    rcases List.mem_append.mp hc with hc | hc
    · cases negative <;> simp at hc
      subst hc
      decide
    · exact h.ascii c hc
  have htrim : trimBoth isAsciiBlank ((if negative then ['-'] else []) ++ cs) =
      (if negative then ['-'] else []) ++ cs := by
    apply trimBoth_of_none
    intro c hc
    rcases List.mem_append.mp hc with hc | hc
    · cases negative <;> simp at hc
      subst hc
      decide
    · exact isAsciiBlank_of_digit (h c hc)
  rw [signedDigits?, String.toList_ofList]
  simpa [hplain, htrim, hsplit, joinDigits_of_digits h, hne] using List.all_eq_true.mpr h

theorem signedValue_of_natAbs {n : Int} {cs : List Char} (h : natOfDigits cs = n.natAbs) :
    signedValue (decide (n < 0), cs) = n := by
  rw [signedValue, h]
  by_cases hn : n < 0
  · simp only [hn, decide_true, ↓reduceIte]
    omega
  · simp only [hn, decide_false, Bool.false_eq_true, ↓reduceIte]
    omega

/-- The digits of a size, with a minus in front if the number is negative, read as the number. -/
theorem readInt_signed {n : Int} {cs : List Char} (hne : cs ≠ []) (h : AllDigits cs)
    (hvalue : natOfDigits cs = n.natAbs) (hlength : cs.length ≤ digitLimit) :
    readInt (String.ofList ((if decide (n < 0) then ['-'] else []) ++ cs)) = some n := by
  rw [readInt_eq, signedDigits?_ofList _ hne h]
  simp [Option.filter, hlength, signedValue_of_natAbs hvalue]

theorem toString_int (n : Int) : toString n =
    String.ofList ((if decide (n < 0) then ['-'] else []) ++ Nat.toDigits 10 n.natAbs) := by
  cases n with
  | ofNat m => rfl
  | negSucc m =>
    apply String.toList_inj.mp
    simp [Int.toString_eq_repr, Int.repr, Int.negSucc_lt_zero]

/-- A whole number that is written out is read back, up to the longest number that is read. -/
theorem readInt_toString {n : Int} (h : (Nat.toDigits 10 n.natAbs).length ≤ digitLimit) :
    readInt (toString n) = some n := by
  rw [toString_int]
  exact readInt_signed Nat.toDigits_ne_nil (fun c hc => isDigit_of_mem_toDigits hc)
    Nat.ofDigitChars_ten_toDigits h

theorem toList_padded (width n : Nat) : (padded width n).toList =
    List.replicate (width - (Nat.toDigits 10 n).length) '0' ++ Nat.toDigits 10 n := by
  simp [padded, ← String.length_toList]

theorem padded_digits (width n : Nat) : AllDigits (padded width n).toList := by
  intro c hc
  rw [toList_padded] at hc
  rcases List.mem_append.mp hc with hc | hc
  · obtain ⟨-, rfl⟩ := List.mem_replicate.mp hc
    decide
  · exact isDigit_of_mem_toDigits hc

theorem padded_ne_nil (width n : Nat) : (padded width n).toList ≠ [] := by
  simp [toList_padded, Nat.toDigits_ne_nil]

/-- Zeros in front do not change the number. -/
theorem natOfDigits_padded (width n : Nat) : natOfDigits (padded width n).toList = n := by
  change Nat.ofDigitChars 10 (padded width n).toList 0 = n
  rw [toList_padded, Nat.ofDigitChars_append, Nat.ofDigitChars_replicate_zero, Nat.mul_zero,
    Nat.ofDigitChars_ten_toDigits]

theorem length_padded (width n : Nat) :
    (padded width n).toList.length = max width (Nat.toDigits 10 n).length := by
  rw [toList_padded, List.length_append, List.length_replicate]
  omega

end PixelTelescope.Text
