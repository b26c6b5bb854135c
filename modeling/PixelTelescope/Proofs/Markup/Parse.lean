import Mathlib.Tactic.SplitIfs
import PixelTelescope.Proofs.Decimal.Visible
import PixelTelescope.Proofs.Markup.Written
import PixelTelescope.Text.Hex
import PixelTelescope.Text.Newline

namespace PixelTelescope.Markup

def isChar (c : Char) : Bool :=
  c = '\t' || c = '\n' || c = '\r' || (0x20 ≤ c.toNat && c.toNat ≤ 0xFFFD) || 0x10000 ≤ c.toNat

def charOf? (n : Nat) : Option Char :=
  if n.isValidChar ∧ isChar (.ofNat n) = true then some (.ofNat n) else none

def reference? : List Char → Option Char
  | '#' :: 'x' :: digits => if digits.isEmpty then none else (Text.hex? digits).bind charOf?
  | '#' :: digits =>
    if !digits.isEmpty && digits.all Text.isDigit then charOf? (Text.natOfDigits digits) else none
  | _ => none

/-- Beside what a scan does, characters may be given by their numbers in a value, and every blank
that stands in it as such is a space. -/
def State.parseStep (s : State) (c : Char) : Option State :=
  match s.place with
  | .value tag name text =>
    if isBlank c then s.goTo (.value tag name (text ++ [' '])) else s.step c
  | .entity tag name text word =>
    if c = ';' then
      ((entity? word).or (reference? word)).bind fun d => s.goTo (.value tag name (text ++ [d]))
    else s.step c
  | _ => s.step c

/-- The nodes of a document as the standard has it: other characters make it no document, and all
line ends are line feeds before anything else is done. -/
def parse (text : String) : Option (List Node) :=
  if text.toList.all isChar then
    match (Text.joinLineEnds text.toList).foldlM State.parseStep ⟨[], [], .between⟩ with
    | some ⟨[], nodes, .between⟩ => if nodes.countP (·.isElement) = 1 then some nodes else none
    | _ => none
  else none

example : parse "<a b=\"x&#9;y\tz\"/>" = some [.element "a" [("b", "x\ty z")] []] := rfl

def IsText (s : String) : Prop := ∀ c ∈ s.toList, isChar c = true

mutual

def Node.Tells (p : String → Prop) : Node → Prop
  | .instruction text => p text
  | .comment text => p text
  | .element _ attributes children => (∀ a ∈ attributes, p a.2) ∧ AllTell p children

def AllTell (p : String → Prop) : List Node → Prop
  | [] => True
  | n :: rest => n.Tells p ∧ AllTell p rest

end

theorem allTell_append {p : String → Prop} {as bs : List Node} :
    AllTell p (as ++ bs) ↔ AllTell p as ∧ AllTell p bs := by
  induction as with
  | nil => simp [AllTell]
  | cons n rest ih => simp [AllTell, ih, and_assoc]

theorem allTell_flatMap {p : String → Prop} {β : Type} {f : β → List Node} {xs : List β}
    (h : ∀ x ∈ xs, AllTell p (f x)) : AllTell p (xs.flatMap f) := by
  induction xs with
  | nil => trivial
  | cons x rest ih =>
    have hrest : ∀ y ∈ rest, AllTell p (f y) := fun y hy => h y (List.mem_cons_of_mem _ hy)
    exact allTell_append.mpr ⟨h x List.mem_cons_self, ih hrest⟩

@[simp] theorem isText_append {s t : String} : IsText (s ++ t) ↔ IsText s ∧ IsText t := by
  simp only [IsText, String.toList_append, List.forall_mem_append]

theorem isChar_of_visible {c : Char} (h : 32 ≤ c.toNat ∧ c.toNat < 127) : isChar c = true := by
  simp only [isChar, Bool.or_eq_true, Bool.and_eq_true, decide_eq_true_eq]
  omega

theorem isText_of_visible {s : String} (h : Text.Visible s) : IsText s :=
  fun c hc => isChar_of_visible (h c hc)

theorem isChar_of_isBlank {c : Char} (h : isBlank c = true) : isChar c = true := by
  simp only [isBlank, Bool.or_eq_true, decide_eq_true_eq] at h
  rcases h with ((rfl | rfl) | rfl) | rfl <;> rfl

theorem visible_of_isAlpha {c : Char} (h : c.isAlpha = true) : 32 ≤ c.toNat ∧ c.toNat < 127 := by
  rcases Bool.or_eq_true_iff.mp h with hupper | hlower
  · have hbounds : 65 ≤ c.toNat ∧ c.toNat ≤ 90 := of_decide_eq_true hupper
    omega
  · have hbounds : 97 ≤ c.toNat ∧ c.toNat ≤ 122 :=
      (Bool.and_eq_true_iff.mp hlower).imp of_decide_eq_true of_decide_eq_true
    omega

theorem visible_of_isDigit {c : Char} (h : c.isDigit = true) : 32 ≤ c.toNat ∧ c.toNat < 127 := by
  have hbounds : 48 ≤ c.toNat ∧ c.toNat ≤ 57 :=
    (Bool.and_eq_true_iff.mp h).imp of_decide_eq_true of_decide_eq_true
  omega

theorem isChar_of_isNameChar {c : Char} (h : isNameChar c = true) : isChar c = true := by
  refine isChar_of_visible ?_
  simp only [isNameChar, isNameStart, Bool.or_eq_true, decide_eq_true_eq] at h
  rcases h with ((((halpha | rfl) | rfl) | hdigit) | rfl) | rfl
  · exact visible_of_isAlpha halpha
  · decide
  · decide
  · exact visible_of_isDigit hdigit
  · decide
  · decide

theorem isText_of_isName {name : String} (h : isName name = true) : IsText name := by
  obtain ⟨c, cs, hname, hc, hcs⟩ := cons_of_isName h
  intro d hd
  rw [hname] at hd
  rcases List.mem_cons.mp hd with rfl | hd
  · exact isChar_of_isNameChar (by simp [isNameChar, hc])
  · exact isChar_of_isNameChar (hcs d hd)

theorem isChar_escapedChar {c : Char} (h : isChar c = true) :
    ∀ d ∈ escapedChar c, isChar d = true := by
  unfold escapedChar
  split_ifs
  · exact isText_of_visible (by decide : Text.Visible "&amp;")
  · exact isText_of_visible (by decide : Text.Visible "&lt;")
  · exact isText_of_visible (by decide : Text.Visible "&gt;")
  · exact isText_of_visible (by decide : Text.Visible "&quot;")
  · simpa using h

theorem isChar_escaped {value : String} (h : IsText value) :
    ∀ c ∈ escaped value, isChar c = true := by
  intro d hd
  obtain ⟨c, hc, hd⟩ := List.mem_flatMap.mp hd
  exact isChar_escapedChar (h c hc) d hd

theorem isChar_attribute {a : Attribute} (h : a.isSound = true) (hvalue : IsText a.value) :
    ∀ c ∈ a.write, isChar c = true := by
  obtain ⟨-, hgap, hname⟩ := a.isSound_iff.mp h
  simp only [Attribute.write, List.forall_mem_append, List.forall_mem_cons]
  exact ⟨⟨⟨fun c hc => isChar_of_isBlank (hgap c hc), isText_of_isName hname⟩, rfl, rfl,
    isChar_escaped hvalue⟩, rfl, List.forall_mem_nil _⟩

theorem isChar_tag {name : String} {attributes : List Attribute} (h : SoundTag name attributes)
    (hvalues : ∀ a ∈ attributes.map Attribute.pair, IsText a.2) :
    ∀ c ∈ writeTag name attributes, isChar c = true := by
  simp only [writeTag, List.forall_mem_append, List.forall_mem_cons]
  refine ⟨⟨by decide, isText_of_isName h.named⟩, fun c hc => ?_⟩
  obtain ⟨a, ha, hc⟩ := List.mem_flatMap.mp hc
  exact isChar_attribute (List.all_eq_true.mp h.sound a ha)
    (hvalues a.pair (List.mem_map_of_mem ha)) c hc

mutual

/-- A sound piece is written with no other characters than it tells. -/
theorem Item.Sound.isText : ∀ {item : Item}, item.Sound → AllTell IsText item.nodes →
    ∀ c ∈ item.write, isChar c = true
  | .blank text, h, _ => fun c hc => isChar_of_isBlank (List.all_eq_true.mp h c hc)
  | .instruction text, _, htold => by
    simp only [Item.write, List.forall_mem_append]
    exact ⟨⟨isText_of_visible (by decide), htold.1⟩, isText_of_visible (by decide)⟩
  | .comment text, _, htold => by
    simp only [Item.write, List.forall_mem_append]
    exact ⟨⟨isText_of_visible (by decide), htold.1⟩, isText_of_visible (by decide)⟩
  | .empty name attributes tail, h, htold => by
    simp only [Item.write, List.forall_mem_append]
    exact ⟨⟨isChar_tag h.1 htold.1.1, fun c hc => isChar_of_isBlank (List.all_eq_true.mp h.2 c hc)⟩,
      isText_of_visible (by decide)⟩
  | .element name attributes children, h, htold => by
    simp only [Item.write, List.forall_mem_append, List.forall_mem_cons]
    exact ⟨⟨⟨⟨isChar_tag h.1 htold.1.1, rfl, h.2.isText htold.1.2⟩,
      isText_of_visible (by decide)⟩, isText_of_isName h.1.named⟩, rfl, List.forall_mem_nil _⟩

theorem AllSound.isText : ∀ {items : List Item}, AllSound items → AllTell IsText (allNodes items) →
    ∀ c ∈ writeAll items, isChar c = true
  | [], _, _ => by simp [writeAll]
  | item :: rest, h, htold => by
    obtain ⟨hitem, hrest⟩ := allTell_append.mp htold
    exact List.forall_mem_append.mpr ⟨h.1.isText hitem, h.2.isText hrest⟩

end

end PixelTelescope.Markup
