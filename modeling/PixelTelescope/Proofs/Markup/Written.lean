import PixelTelescope.Proofs.Markup.Dashes
import PixelTelescope.Proofs.Markup.Reads

namespace PixelTelescope.Markup

mutual

/-- A piece that is written as one: names are names, gaps are blanks, and no comment holds its own
end. -/
def Item.Sound : Item → Prop
  | .blank text => text.toList.all isBlank = true
  | .instruction text => '?' ∉ text.toList
  | .comment text => hasPair text.toList = false ∧ text.toList.getLast? ≠ some '-'
  | .empty name attributes tail => SoundTag name attributes ∧ tail.toList.all isBlank = true
  | .element name attributes children => SoundTag name attributes ∧ AllSound children

def AllSound : List Item → Prop
  | [] => True
  | item :: rest => item.Sound ∧ AllSound rest

end

mutual

def Item.nodes : Item → List Node
  | .blank _ => []
  | .instruction text => [.instruction text]
  | .comment text => [.comment text]
  | .empty name attributes _ => [.element name (attributes.map Attribute.pair) []]
  | .element name attributes children =>
    [.element name (attributes.map Attribute.pair) (allNodes children)]

def allNodes : List Item → List Node
  | [] => []
  | item :: rest => item.nodes ++ allNodes rest

end

theorem allSound_append {as bs : List Item} : AllSound (as ++ bs) ↔ AllSound as ∧ AllSound bs := by
  induction as with
  | nil => simp [AllSound]
  | cons a rest ih => simp [AllSound, ih, and_assoc]

theorem allNodes_append (as bs : List Item) : allNodes (as ++ bs) = allNodes as ++ allNodes bs := by
  induction as with
  | nil => simp [allNodes]
  | cons a rest ih => simp [allNodes, ih]

theorem allSound_flatMap {β : Type} {f : β → List Item} {xs : List β}
    (h : ∀ x, AllSound (f x)) : AllSound (xs.flatMap f) := by
  induction xs with
  | nil => trivial
  | cons x rest ih => exact allSound_append.mpr ⟨h x, ih⟩

theorem allNodes_flatMap {β : Type} {f : β → List Item} {xs : List β} :
    allNodes (xs.flatMap f) = xs.flatMap fun x => allNodes (f x) := by
  induction xs with
  | nil => rfl
  | cons x rest ih => rw [List.flatMap_cons, allNodes_append, ih, List.flatMap_cons]

mutual

/-- A sound piece leaves its nodes behind, and whatever was open stays open. -/
theorem Item.Sound.reads : ∀ {item : Item} {stack : List Frame} {nodes : List Node}, item.Sound →
    Reads ⟨stack, nodes, .between⟩ item.write ⟨stack, nodes ++ item.nodes, .between⟩
  | .blank text, stack, nodes, h => by
    rw [Item.nodes, List.append_nil]
    exact .blank (List.all_eq_true.mp h)
  | .instruction text, stack, nodes, h => by
    have hread : Reads ⟨stack, nodes, .between⟩ _ _ := .instruction h
    rwa [String.ofList_toList] at hread
  | .comment text, stack, nodes, h => by
    have hread : Reads ⟨stack, nodes, .between⟩ _ _ := .comment h.1 h.2
    rwa [String.ofList_toList] at hread
  | .empty name attributes tail, stack, nodes, h => .emptyElement h.1 (List.all_eq_true.mp h.2)
  | .element name attributes children, stack, nodes, h => by
    have hopen : Reads ⟨stack, nodes, .tag ⟨name, attributes.map Attribute.pair⟩⟩ ['>']
        ⟨⟨⟨name, attributes.map Attribute.pair⟩, nodes⟩ :: stack, [], .between⟩ := rfl
    have hchildren := hopen.append (AllSound.reads h.2)
    have hclose := hchildren.append (.endTag h.1.named rfl)
    have hread := Reads.startTag h.1 rfl hclose
    simpa [Item.write, Item.nodes] using hread

theorem AllSound.reads : ∀ {items : List Item} {stack : List Frame} {nodes : List Node},
    AllSound items →
    Reads ⟨stack, nodes, .between⟩ (writeAll items) ⟨stack, nodes ++ allNodes items, .between⟩
  | [], stack, nodes, h => by
    rw [allNodes, List.append_nil]
    exact .refl _
  | item :: rest, stack, nodes, h => by
    rw [writeAll, allNodes, ← List.append_assoc]
    exact h.1.reads.append (AllSound.reads h.2)

end

/-- What was written soundly is read back: blanks are left out, and values hold again what they
held before. -/
theorem scan_written {items : List Item} (h : AllSound items)
    (hroot : (allNodes items).countP (·.isElement) = 1) :
    scan (String.ofList (writeAll items)) = some (allNodes items) := by
  have hread : State.run ⟨[], [], .between⟩ (writeAll items) =
      some ⟨[], [] ++ allNodes items, .between⟩ := h.reads
  simp only [scan, String.toList_ofList, hread, List.nil_append, if_pos hroot]

end PixelTelescope.Markup
