import Mathlib
import PixelTelescope.Proofs.Gear.Remark
import PixelTelescope.Proofs.Markup.Written

namespace PixelTelescope.Gear

open Markup (Attribute Item AllSound SoundTag allNodes allNodes_append allNodes_flatMap
  allSound_append allSound_flatMap elementsAt)
open PixelTelescope.Geometry (Vec3)

def Ladder.outline (l : Ladder Float) : Markup.Node :=
  .element "ladder" [
    ("ID", toString l.id),
    ("positionX", amount l.position.x),
    ("positionY", amount l.position.y),
    ("positionZ", amount l.position.z),
    ("rotationZY", amount l.rotation.x),
    ("rotationZX", amount l.rotation.y),
    ("rotationXY", amount l.rotation.z),
    ("sizeX", amount l.size.x),
    ("sizeY", amount l.size.y),
    ("thickness", amount l.size.z),
    ("radLength", amount l.radiationLength)] []

def Sensitive.outline (s : Sensitive Float) : Markup.Node :=
  .element "sensitive" [
    ("ID", toString s.id),
    ("positionX", amount s.position.x),
    ("positionY", amount s.position.y),
    ("positionZ", amount s.position.z),
    ("sizeX", amount s.size.x),
    ("sizeY", amount s.size.y),
    ("thickness", amount s.size.z),
    ("npixelX", toString s.columns),
    ("npixelY", toString s.rows),
    ("pitchX", amount s.pitchX),
    ("pitchY", amount s.pitchY),
    ("resolution", amount s.resolution),
    ("rotation1", Decimal.tenths s.rotation.1),
    ("rotation2", Decimal.tenths s.rotation.2.1),
    ("rotation3", Decimal.tenths s.rotation.2.2.1),
    ("rotation4", Decimal.tenths s.rotation.2.2.2),
    ("radLength", amount s.radiationLength)] []

/-- One comment and one element, whatever the detector is called. -/
def Layer.outline (l : Layer Float) : List Markup.Node :=
  [.comment (" Allpix Squared Detector: " ++ remark l.detector ++ " - type: " ++
      remark l.type ++ " "),
    .element "layer" [] [l.ladder.outline, l.sensitive.outline]]

def fieldOutline (v : Vec3 Float) : Markup.Node :=
  let isNull := v.x == 0.0 && v.y == 0.0 && v.z == 0.0
  let component := fun (x : Float) => if isNull then "0.0" else amount x
  .element "BField" [("type", "ConstantBField"), ("x", component v.x), ("y", component v.y),
    ("z", component v.z)] []

def Document.outline (d : Document Float) : List Markup.Node := [
  .instruction "xml version=\"1.0\" encoding=\"utf-8\"",
  .comment " ?xml-stylesheet type=\"text/xsl\" href=\"https://cern.ch/allpix-squared/\"? ",
  .comment " pxwriter GEAR schema 1.0 ",
  .element "gear" [] [
    .element "global" [("detectorName", d.detectorName)] [],
    fieldOutline d.field,
    .element "detectors" [] [
      .element "detector" [("name", "SiPlanes"), ("geartype", "SiPlanesParameters")] [
        .element "siplanesType" [("type", "TelescopeWithoutDUT")] [],
        .element "siplanesNumber" [("number", toString d.layers.length)] [],
        .element "siplanesID" [("ID", "0")] [],
        .element "layers" [] (d.layers.flatMap Layer.outline)]]]]

theorem spaces_blank (n : Nat) : (Item.blank (spaces n)).Sound := by
  rw [Item.Sound, spaces, String.toList_ofList, List.all_replicate]
  exact ite_self _

theorem allSound_line {indent : Nat} {item : Item} (h : item.Sound) :
    AllSound (line indent item) :=
  ⟨spaces_blank indent, h, rfl, trivial⟩

theorem allNodes_line (indent : Nat) (item : Item) :
    allNodes (line indent item) = item.nodes := by
  simp [line, allNodes, Item.nodes]

theorem allSound_block {indent : Nat} {name : String} {attributes : List Attribute}
    {children : List Item} (htag : SoundTag name attributes) (h : AllSound children) :
    AllSound (block indent name attributes children) :=
  allSound_line ⟨htag, rfl, allSound_append.mpr ⟨h, spaces_blank indent, trivial⟩⟩

theorem allNodes_block (indent : Nat) (name : String) (attributes : List Attribute)
    (children : List Item) : allNodes (block indent name attributes children) =
      [.element name (attributes.map Attribute.pair) (allNodes children)] := by
  simp [block, allNodes_line, allNodes, allNodes_append, Item.nodes]

/-- Neither the gaps nor the names of attributes depend on what is told. -/
theorem Ladder.item_sound (l : Ladder Float) : l.item.Sound := by
  refine ⟨⟨rfl, ?_, of_decide_eq_true rfl⟩, rfl⟩
  simp +decide [attr, positionAttributes, sizeAttributes, lengthAttribute, nextLine, spaces,
    Attribute.isSound]

theorem Sensitive.item_sound (s : Sensitive Float) : s.item.Sound := by
  refine ⟨⟨rfl, ?_, of_decide_eq_true rfl⟩, rfl⟩
  simp +decide [attr, positionAttributes, sizeAttributes, lengthAttribute, nextLine, spaces,
    Attribute.isSound]

theorem fieldItem_sound (v : Vec3 Float) : (fieldItem v).Sound := by
  refine ⟨⟨rfl, ?_, of_decide_eq_true rfl⟩, rfl⟩
  simp +decide [attr, Attribute.isSound]

/-- An element whose only attribute is given in the text of a line. -/
theorem emptyItem_sound {name key : String} (value : String) (hname : Markup.isName name = true)
    (hkey : Markup.isName key = true) : (Item.empty name [attr key value] "").Sound := by
  refine ⟨⟨hname, ?_, by simp⟩, rfl⟩
  simp +decide [attr, Attribute.isSound, hkey]

/-- The names stand between blanks, so that no dash of theirs meets one outside. -/
theorem remarks_sound (detector type : String) : (Item.comment (" Allpix Squared Detector: " ++
    remark detector ++ " - type: " ++ remark type ++ " ")).Sound := by
  have hfirst : " Allpix Squared Detector: ".toList =
      " Allpix Squared Detector:".toList ++ [' '] := by decide
  have hmiddle : " - type: ".toList = ' ' :: ("- type:".toList ++ [' ']) := by decide
  have hlast : " ".toList = [' '] := by decide
  have hfirstPair : Markup.hasPair " Allpix Squared Detector:".toList = false := by decide
  have hmiddlePair : Markup.hasPair "- type:".toList = false := by decide
  have hspace : ' ' ≠ '-' := by decide
  constructor
  · simp only [String.toList_append, hfirst, hmiddle, hlast, List.append_assoc, List.cons_append,
      List.nil_append, Markup.hasPair_append hspace, hfirstPair, hmiddlePair, hasPair_remark,
      Bool.false_or]
    rfl
  · rw [String.toList_append, hlast, List.getLast?_concat]
    decide

theorem Layer.items_sound (l : Layer Float) : AllSound l.items :=
  allSound_append.mpr ⟨allSound_line (remarks_sound l.detector l.type),
    allSound_block ⟨rfl, rfl, List.nodup_nil⟩ (allSound_append.mpr
      ⟨allSound_line l.ladder.item_sound, allSound_line l.sensitive.item_sound⟩)⟩

theorem Document.detectorItems_sound (d : Document Float) : AllSound d.detectorItems := by
  simp only [Document.detectorItems, allSound_append]
  exact ⟨⟨⟨allSound_line (emptyItem_sound _ rfl rfl), allSound_line (emptyItem_sound _ rfl rfl)⟩,
    allSound_line (emptyItem_sound _ rfl rfl)⟩,
    allSound_block ⟨rfl, rfl, List.nodup_nil⟩ (allSound_flatMap Layer.items_sound)⟩

theorem Document.items_sound (d : Document Float) : AllSound d.items := by
  have hdetector : SoundTag "detector" [attr "name" "SiPlanes",
      attr "geartype" "SiPlanesParameters"] := ⟨rfl, rfl, by decide⟩
  simp only [Document.items, allSound_append]
  refine ⟨⟨⟨allSound_line ?_, allSound_line ?_⟩, allSound_line ?_⟩, ?_⟩
  · have hmark : '?' ∉ "xml version=\"1.0\" encoding=\"utf-8\"".toList := by decide
    exact hmark
  · exact ⟨by decide, by decide⟩
  · exact ⟨by decide, by decide⟩
  · refine allSound_block ⟨rfl, rfl, List.nodup_nil⟩ (allSound_append.mpr
      ⟨allSound_append.mpr ⟨allSound_line (emptyItem_sound d.detectorName rfl rfl),
        allSound_line (fieldItem_sound d.field)⟩, ?_⟩)
    exact allSound_block ⟨rfl, rfl, List.nodup_nil⟩ (allSound_block hdetector d.detectorItems_sound)

theorem Layer.items_nodes (l : Layer Float) : allNodes l.items = l.outline := by
  simp only [Layer.items, allNodes_append, allNodes_line, allNodes_block]
  rfl

theorem Document.items_nodes (d : Document Float) : allNodes d.items = d.outline := by
  simp only [Document.items, Document.detectorItems, allNodes_append, allNodes_line,
    allNodes_block, allNodes_flatMap, Layer.items_nodes]
  rfl

theorem Document.scan_text (d : Document Float) : Markup.scan d.text = some d.outline := by
  rw [← d.items_nodes]
  refine Markup.scan_written d.items_sound ?_
  rw [d.items_nodes]
  rfl

theorem integer?_of_lookup {attributes : List (String × String)} {name tag : String} {n : Int}
    {children : List Markup.Node} (h : attributes.lookup name = some (toString n)) :
    Markup.Node.integer? name (.element tag attributes children) = some n := by
  rw [Markup.Node.integer?, Markup.Node.attribute?, h, Option.bind_some, Int.toString_eq_repr,
    Int.toInt?_repr]

theorem number_at (d : Document Float) :
    elementsAt ["gear", "detectors", "detector", "siplanesNumber"] d.outline =
      [.element "siplanesNumber" [("number", toString (d.layers.length : Int))] []] := rfl

/-- The comments between the layers are no elements. -/
theorem layers_at (d : Document Float) :
    elementsAt ["gear", "detectors", "detector", "layers", "layer"] d.outline =
      d.layers.map fun l => .element "layer" [] [l.ladder.outline, l.sensitive.outline] := by
  have hpath : elementsAt ["gear", "detectors", "detector", "layers", "layer"] d.outline =
      (d.layers.flatMap Layer.outline).filter (·.isNamed "layer") := by
    simp +decide [elementsAt, Document.outline, fieldOutline, Markup.Node.isNamed,
      Markup.Node.children]
  rw [hpath]
  induction d.layers with
  | nil => rfl
  | cons l rest ih =>
    rw [List.flatMap_cons, List.filter_append, ih]
    rfl

theorem Document.print_eq_ok {d : Document Float} {text : String} :
    d.print = .ok text ↔
      (∀ l ∈ d.layers, ∀ n ∈ l.integers, Text.isSpellable n = true) ∧ d.text = text := by
  simp only [← List.all_eq_true]
  unfold Document.print
  split
  · rename_i hall
    exact ⟨fun h => ⟨hall, Except.ok.inj h⟩, fun h => h.2 ▸ rfl⟩
  · rename_i hlong
    exact ⟨fun h => by contradiction, fun h => absurd h.1 hlong⟩

theorem Document.print_eq_error {d : Document Float} {f : Failure} :
    d.print = .error f ↔
      ¬ (∀ l ∈ d.layers, ∀ n ∈ l.integers, Text.isSpellable n = true) ∧
        f = .number .malformed := by
  simp only [← List.all_eq_true]
  unfold Document.print
  split
  · rename_i hall
    exact ⟨fun h => by contradiction, fun h => absurd hall h.1⟩
  · rename_i hlong
    exact ⟨fun h => ⟨hlong, (Except.error.inj h).symm⟩, fun h => h.2 ▸ rfl⟩

/-- A document is put into text if its integers are no longer than a text of an integer may be, and
whatever its names and its other numbers are, this text holds the same elements and comments: one
layer for each layer of the document, in order, with the integers of the document. -/
theorem text_keeps_structure (d : Document Float) :
    ((∃ text, d.print = .ok text) ↔
      ∀ l ∈ d.layers, ∀ n ∈ l.integers, Text.isSpellable n = true) ∧
      (∀ f, d.print = .error f → f = .number .malformed) ∧
      ∀ text, d.print = .ok text →
        Markup.scan text = some d.outline ∧
        (elementsAt ["gear", "detectors", "detector", "siplanesNumber"] d.outline).map
          (Markup.Node.integer? "number") = [some (d.layers.length : Int)] ∧
        elementsAt ["gear", "detectors", "detector", "layers", "layer"] d.outline =
          d.layers.map (fun l => .element "layer" [] [l.ladder.outline, l.sensitive.outline]) ∧
        ∀ l ∈ d.layers, l.ladder.outline.integer? "ID" = some l.ladder.id ∧
          l.sensitive.outline.integer? "ID" = some l.sensitive.id ∧
          l.sensitive.outline.integer? "npixelX" = some l.sensitive.columns ∧
          l.sensitive.outline.integer? "npixelY" = some l.sensitive.rows := by
  refine ⟨⟨?_, fun h => ⟨_, Document.print_eq_ok.mpr ⟨h, rfl⟩⟩⟩, ?_, ?_⟩
  · rintro ⟨text, htext⟩
    exact (Document.print_eq_ok.mp htext).1
  · intro f hf
    exact (Document.print_eq_error.mp hf).2
  · intro text htext
    obtain ⟨-, rfl⟩ := Document.print_eq_ok.mp htext
    refine ⟨d.scan_text, ?_, layers_at d, fun l _ => ⟨?_, ?_, ?_, ?_⟩⟩
    · rw [number_at, List.map_singleton, integer?_of_lookup rfl]
    · exact integer?_of_lookup rfl
    · exact integer?_of_lookup rfl
    · exact integer?_of_lookup rfl
    · exact integer?_of_lookup rfl

def planeLayer (id : Int) : Layer Float where
  detector := "plane -- 1"
  type := "mimosa26"
  ladder := ⟨id, ⟨0.0, 0.0, 20.0⟩, ⟨0.0, 0.0, 180.0⟩, ⟨21.2, 10.6, 0.05⟩, siliconLength⟩
  sensitive := {
    id, position := ⟨0.0, 0.0, 20.0⟩, size := ⟨21.2, 10.6, 0.05⟩
    columns := 1152, rows := 576
    pitchX := 0.0184, pitchY := 0.0184, resolution := 0.00531, rotation := (1.0, 0.0, 0.0, 1.0)
    radiationLength := siliconLength }

def numberedPlanes (ids : List Int) : Document Float where
  detectorName := "<\"--\">"
  field := ⟨0.0, 0.0, 0.5⟩
  layers := ids.map planeLayer

theorem text_keeps_structure_planes : ∃ text, (numberedPlanes [3, -7]).print = .ok text ∧
    Markup.scan text = some (numberedPlanes [3, -7]).outline := by
  obtain ⟨hprint, -, hkeeps⟩ := text_keeps_structure (numberedPlanes [3, -7])
  obtain ⟨text, htext⟩ := hprint.mpr (by decide)
  exact ⟨text, htext, (hkeeps text htext).1⟩

def longId : Int := 10 ^ Text.digitLimit

theorem longId_not_spellable : Text.isSpellable longId = false := by
  have hpow (k : Nat) : ((10 : Int) ^ k).natAbs = 10 ^ k := Int.natAbs_pow 10 k
  have hsize := hpow Text.digitLimit
  refine decide_eq_false fun hlength => ?_
  have hlt := (Nat.length_toDigits_le_iff (by decide) (by decide)).mp hlength
  exact absurd hsize (Nat.ne_of_lt hlt)

theorem long_id_is_not_printed :
    (numberedPlanes [longId]).print = .error (.number .malformed) ∧
      ¬ ∃ text, (numberedPlanes [longId]).print = .ok text ∧
        Markup.scan text = some (numberedPlanes [longId]).outline := by
  have hprint : (numberedPlanes [longId]).print = .error (.number .malformed) := by
    refine Document.print_eq_error.mpr ⟨fun hall => ?_, rfl⟩
    have hspelled := hall (planeLayer longId) List.mem_cons_self longId List.mem_cons_self
    exact Bool.false_ne_true (longId_not_spellable.symm.trans hspelled)
  refine ⟨hprint, ?_⟩
  rintro ⟨text, htext, -⟩
  simp [hprint] at htext

end PixelTelescope.Gear
