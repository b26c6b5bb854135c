import PixelTelescope.Json.Reader
import PixelTelescope.Json.Writer

namespace PixelTelescope.Json

/-- What may stand for a character between quotes: itself, unless it is a quote, a backslash or a
control character, or an escape that reads as it. -/
inductive Escape (c : Char) : List Char → Prop
  | plain (hcontrol : ¬ c.toNat < 0x20) (hquote : c ≠ '"') (hslash : c ≠ '\\') : Escape c [c]
  | mark {e : Char} (h : simpleEscape? e = some c) (hvisible : 0x20 ≤ e.toNat) :
      Escape c ['\\', e]
  | point {x y z w : Char} (h : Text.hex? [x, y, z, w] = some c.toNat) :
      Escape c ['\\', 'u', x, y, z, w]

theorem hexDigits_control : ∀ n < 32, (Text.hexDigits 4 n).length = 4 ∧
    Text.hex? (Text.hexDigits 4 n) = some n := by
  decide

theorem hexValue?_visible {d : Char} {v : Nat} (h : Text.hexValue? d = some v) :
    0x20 ≤ d.toNat ∧ d ≠ '"' ∧ d ≠ '\\' := by
  have hdigit : 48 ≤ d.toNat ∧ d.toNat ≤ 57 ∨ 97 ≤ d.toNat ∧ d.toNat ≤ 102 ∨
      65 ≤ d.toNat ∧ d.toNat ≤ 70 := by
    grind [Text.hexValue?]
  refine ⟨by omega, ?_, ?_⟩ <;> rintro rfl <;> simp at hdigit

/-- A text that reads as a hexadecimal number has nothing in it but digits. -/
theorem hex?_visible {cs : List Char} {n : Nat} (h : Text.hex? cs = some n) :
    ∀ d ∈ cs, 0x20 ≤ d.toNat ∧ d ≠ '"' ∧ d ≠ '\\' := by
  unfold Text.hex? at h
  -- The value of the digits before `cs` is where the reading stands, whatever it is.
  generalize 0 = start at h
  induction cs generalizing start with
  | nil => exact List.forall_mem_nil _
  | cons c cs ih =>
    rw [List.foldlM_cons] at h
    obtain ⟨next, hnext, hrest⟩ := Option.bind_eq_some_iff.mp h
    obtain ⟨v, hv, -⟩ := Option.map_eq_some_iff.mp hnext
    exact List.forall_mem_cons.mpr ⟨hexValue?_visible hv, ih next hrest⟩

theorem escapedChar_escape (c : Char) : Escape c (escapedChar c) := by
  unfold escapedChar
  split
  · subst c; exact .mark rfl (by decide)
  split
  · subst c; exact .mark rfl (by decide)
  split
  · subst c; exact .mark rfl (by decide)
  split
  · subst c; exact .mark rfl (by decide)
  split
  · subst c; exact .mark rfl (by decide)
  split
  · subst c; exact .mark rfl (by decide)
  split
  · subst c; exact .mark rfl (by decide)
  split
  · rename_i hc
    obtain ⟨hlength, hvalue⟩ := hexDigits_control c.toNat hc
    match hd : Text.hexDigits 4 c.toNat, hlength with
    | [x, y, z, w], _ => exact .point (hd ▸ hvalue)
  · rename_i hquote hslash _ _ _ _ _ hc
    exact .plain hc hquote hslash

variable {c : Char} {es : List Char}

/-- The escape of one character reads as its code point. -/
theorem Escape.readPoints (h : Escape c es) (rest : List Char) :
    readPoints (es ++ rest) =
      (readPoints rest).map fun (points, after) => (c.toNat :: points, after) := by
  cases h with
  | plain hcontrol hquote hslash =>
    rw [List.singleton_append, Json.readPoints, if_neg hcontrol]
    · exact hquote
    · simp [hslash]
    · simp [hslash]
  | @mark e h =>
    have he : e ≠ 'u' := by
      rintro rfl
      simp [simpleEscape?] at h
    rw [List.cons_append, List.singleton_append, Json.readPoints, h]
    · cases Json.readPoints rest <;> rfl
    · simp [he]
  | point h =>
    simp only [List.cons_append, List.nil_append, Json.readPoints, h]
    cases Json.readPoints rest <;> rfl

theorem Escape.visible (h : Escape c es) : ∀ d ∈ es, 0x20 ≤ d.toNat := by
  cases h with
  | plain hcontrol => simpa using hcontrol
  | mark _ hvisible => simpa using hvisible
  | point h =>
    have hdigits := hex?_visible h
    simp only [List.forall_mem_cons] at hdigits ⊢
    exact ⟨by decide, by decide, hdigits.1.1, hdigits.2.1.1, hdigits.2.2.1.1, hdigits.2.2.2.1.1,
      List.forall_mem_nil _⟩

/-- The text up to the first quote that no backslash escapes, and what follows that quote. -/
def untilQuote : List Char → Option (List Char × List Char)
  | [] => none
  | '"' :: rest => some ([], rest)
  | '\\' :: c :: rest =>
    (untilQuote rest).map fun (body, after) => ('\\' :: c :: body, after)
  | c :: rest => (untilQuote rest).map fun (body, after) => (c :: body, after)

theorem untilQuote_cons {c : Char} (hquote : c ≠ '"') (hslash : c ≠ '\\') (rest : List Char) :
    untilQuote (c :: rest) =
      (untilQuote rest).map fun (body, after) => (c :: body, after) := by
  rw [untilQuote]
  · exact hquote
  · simp [hslash]

/-- No quote in an escape ends the text in which the escape stands. -/
theorem Escape.untilQuote (h : Escape c es) (rest : List Char) :
    untilQuote (es ++ rest) =
      (untilQuote rest).map fun (body, after) => (es ++ body, after) := by
  cases h with
  | plain hcontrol hquote hslash => exact untilQuote_cons hquote hslash rest
  | mark h => rfl
  | @point x y z w h =>
    have hdigits := hex?_visible h
    simp only [List.forall_mem_cons] at hdigits
    obtain ⟨⟨-, hx⟩, ⟨-, hy⟩, ⟨-, hz⟩, ⟨-, hw⟩, -⟩ := hdigits
    simp only [List.cons_append, List.nil_append, Json.untilQuote, untilQuote_cons hx.1 hx.2,
      untilQuote_cons hy.1 hy.2, untilQuote_cons hz.1 hz.2, untilQuote_cons hw.1 hw.2,
      Option.map_map]
    rfl

theorem untilQuote_escaped (cs rest : List Char) :
    untilQuote (cs.flatMap escapedChar ++ '"' :: rest) = some (cs.flatMap escapedChar, rest) := by
  induction cs with
  | nil => rfl
  | cons c cs ih =>
    rw [List.flatMap_cons, List.append_assoc, (escapedChar_escape c).untilQuote, ih]
    rfl

theorem readPoints_escaped (cs rest : List Char) :
    readPoints (cs.flatMap escapedChar ++ '"' :: rest) = some (cs.map Char.toNat, rest) := by
  induction cs with
  | nil => rfl
  | cons c cs ih =>
    rw [List.flatMap_cons, List.append_assoc, (escapedChar_escape c).readPoints, ih]
    rfl

theorem unit_toNat (c : Char) : unit c.toNat = c := by
  have hv : c.toNat < 0xd800 ∨ 0xdfff < c.toNat ∧ c.toNat < 0x110000 := c.valid
  have hh : isHigh c.toNat = false := by simp [isHigh]; omega
  have hl : isLow c.toNat = false := by simp [isLow]; omega
  simp [unit, hh, hl]

theorem isHigh_toNat (c : Char) : isHigh c.toNat = false := by
  have hv : c.toNat < 0xd800 ∨ 0xdfff < c.toNat ∧ c.toNat < 0x110000 := c.valid
  simp [isHigh]
  omega

/-- Characters hold no halves of pairs, so that none are joined. -/
theorem join_toNat (cs : List Char) : join (cs.map Char.toNat) = cs := by
  induction cs with
  | nil => rfl
  | cons c cs ih =>
    cases cs with
    | nil => simp [join, unit_toNat]
    | cons d ds =>
      simp only [List.map_cons] at ih ⊢
      simp [join, isHigh_toNat, unit_toNat, ih]

theorem readText_escaped (cs rest : List Char) :
    readText (cs.flatMap escapedChar ++ '"' :: rest) = some (cs, rest) := by
  simp [readText, readPoints_escaped, join_toNat]

theorem skip_of_not_blank {c : Char} (h : isBlank c = false) (rest : List Char) :
    skip (c :: rest) = c :: rest := by
  simp [skip, h]

theorem readValue_text (fuel : Nat) (s : String) (rest : List Char) :
    readValue (fuel + 1) (encodeText s.toList ++ rest) = some (.text s, rest) := by
  have hs : skip (encodeText s.toList ++ rest) =
      '"' :: (s.toList.flatMap escapedChar ++ '"' :: rest) := by
    simp [encodeText, skip_of_not_blank (c := '"') rfl]
  rw [readValue, hs]
  simp [readText_escaped]

def textItems (names : List String) : List Char :=
  [','].intercalate (names.map fun s => encodeText s.toList)

/-- Every text but the last is followed by a comma, the last by the closing bracket. -/
theorem readItems_texts (names : List String) (rest : List Char) (fuel : Nat)
    (hne : names ≠ []) (hf : names.length < fuel) :
    readItems fuel (textItems names ++ ']' :: rest) = some (names.map .text, rest) := by
  induction names generalizing fuel with
  | nil => contradiction
  | cons s names ih =>
    obtain ⟨fuel, rfl⟩ : ∃ k, fuel = k + 2 := ⟨fuel - 2, by simp at hf; omega⟩
    cases names with
    | nil =>
      simp [textItems, readItems, readValue_text, skip_of_not_blank (c := ']') rfl]
    | cons t more =>
      have hr := ih (fuel + 1) (by simp) (by simp at hf ⊢; omega)
      have hi : textItems (s :: t :: more) ++ ']' :: rest =
          encodeText s.toList ++ ',' :: (textItems (t :: more) ++ ']' :: rest) := by
        simp [textItems, List.intercalate_cons_cons]
      rw [hi, readItems]
      simp [readValue_text, skip_of_not_blank (c := ',') rfl, hr]

theorem writeItems_texts (names : List String) :
    writeItems (names.map .text) = names.map text := by
  induction names with
  | nil => rfl
  | cons s names ih => simp [writeItems, write, ih]

theorem toList_write_texts (names : List String) :
    (write (Value.texts names)).toList = '[' :: textItems names ++ [']'] := by
  have hm : (names.map text).map String.toList = names.map fun s => encodeText s.toList := by
    simp [text]
  simp only [write, Value.texts, writeItems_texts, String.toList_append, String.toList_intercalate,
    hm, textItems]
  rfl

theorem length_le_textItems (names : List String) : names.length ≤ (textItems names).length := by
  induction names with
  | nil => simp
  | cons s names ih =>
    cases names with
    | nil => simp [textItems, encodeText]
    | cons t more =>
      simp only [textItems, List.map_cons, List.intercalate_cons_cons, List.length_append,
        List.length_cons] at ih ⊢
      omega

/-- A list of texts reads as it was written. -/
theorem read_write_texts (names : List String) :
    read (write (Value.texts names)) = some (Value.texts names) := by
  rw [read, toList_write_texts, readChars]
  have hv : readValue (('[' :: textItems names ++ [']']).length + 1)
      ('[' :: textItems names ++ [']']) = some (Value.texts names, []) := by
    rw [readValue, List.cons_append, skip_of_not_blank (c := '[') rfl]
    cases names with
    | nil => simp [textItems, skip, isBlank, Value.texts]
    | cons s more =>
      obtain ⟨tail, ht⟩ : ∃ tail, textItems (s :: more) = '"' :: tail := by
        cases more <;> simp [textItems, encodeText, List.intercalate_cons_cons]
      have hl := length_le_textItems (s :: more)
      have hr := readItems_texts (s :: more) [] (tail.length + 3) (by simp)
        (by simp only [ht, List.length_cons] at hl ⊢; omega)
      rw [ht] at hr ⊢
      simp only [List.cons_append, List.length_cons, List.length_append, List.length_nil,
        skip_of_not_blank (c := '"') rfl] at hr ⊢
      rw [hr]
      rfl
  rw [hv]
  rfl

theorem write_texts_injective {names others : List String}
    (h : write (Value.texts names) = write (Value.texts others)) : names = others := by
  have hread := read_write_texts names
  rw [h, read_write_texts] at hread
  have hitems := Value.list.inj (Option.some.inj hread)
  exact (List.map_inj_right fun _ _ => Value.text.inj).mp hitems.symm

theorem encodeText_visible (cs : List Char) : ∀ d ∈ encodeText cs, 0x20 ≤ d.toNat := by
  have hbody : ∀ d ∈ cs.flatMap escapedChar, 0x20 ≤ d.toNat := by
    intro d hd
    obtain ⟨c, -, hd⟩ := List.mem_flatMap.mp hd
    exact (escapedChar_escape c).visible d hd
  simp only [encodeText, List.cons_append, List.forall_mem_cons, List.forall_mem_append]
  exact ⟨by decide, hbody, by decide, List.forall_mem_nil _⟩

/-- No control character stands in a list of texts as such. -/
theorem write_texts_visible (names : List String) :
    ∀ d ∈ (write (Value.texts names)).toList, 0x20 ≤ d.toNat := by
  have hitems : ∀ d ∈ textItems names, 0x20 ≤ d.toNat := by
    induction names with
    | nil => exact List.forall_mem_nil _
    | cons s names ih =>
      cases names with
      | nil => simpa [textItems] using encodeText_visible s.toList
      | cons t more =>
        simp only [textItems, List.map_cons, List.intercalate_cons_cons, List.forall_mem_append,
          List.forall_mem_singleton] at ih ⊢
        exact ⟨⟨encodeText_visible s.toList, by decide⟩, ih⟩
  rw [toList_write_texts]
  simp only [List.cons_append, List.forall_mem_cons, List.forall_mem_append]
  exact ⟨by decide, hitems, by decide, List.forall_mem_nil _⟩

end PixelTelescope.Json
