import PixelTelescope.Decimal.Layout
import PixelTelescope.Gear.Document
import PixelTelescope.Markup.Basic
import PixelTelescope.Markup.Dashes

namespace PixelTelescope.Gear

open Markup (Attribute Item)
open PixelTelescope.Geometry (Vec3)

/-- Six significant digits; a zero has no sign. -/
def amount (x : Float) : String := Decimal.rounded 6 (x + 0.0)

def spaces (n : Nat) : String := String.ofList (List.replicate n ' ')

/-- A piece on a line of its own. -/
def line (indent : Nat) (item : Item) : List Item := [.blank (spaces indent), item, .blank "\n"]

/-- An element whose children stand on lines of their own. -/
def block (indent : Nat) (name : String) (attributes : List Attribute) (children : List Item) :
    List Item :=
  line indent (.element name attributes (.blank "\n" :: children ++ [.blank (spaces indent)]))

def attr (name value : String) : Attribute := ⟨" ", name, value⟩

def nextLine : String := "\n" ++ spaces 12

def positionAttributes (v : Vec3 Float) : List Attribute := [
  ⟨nextLine, "positionX", amount v.x⟩,
  ⟨"\t", "positionY", amount v.y⟩,
  ⟨"\t", "positionZ", amount v.z⟩]

def sizeAttributes (v : Vec3 Float) : List Attribute := [
  ⟨nextLine, "sizeX", amount v.x⟩,
  ⟨"\t", "sizeY", amount v.y⟩,
  ⟨"\t", "thickness", amount v.z⟩]

def lengthAttribute (x : Float) : Attribute := ⟨nextLine, "radLength", amount x⟩

def Ladder.item (l : Ladder Float) : Item :=
  .empty "ladder" (
    [attr "ID" (toString l.id)] ++
    positionAttributes l.position ++
    [⟨nextLine, "rotationZY", amount l.rotation.x⟩,
      ⟨"     ", "rotationZX", amount l.rotation.y⟩,
      ⟨"   ", "rotationXY", amount l.rotation.z⟩] ++
    sizeAttributes l.size ++
    [lengthAttribute l.radiationLength]) nextLine

def Sensitive.item (s : Sensitive Float) : Item :=
  .empty "sensitive" (
    [attr "ID" (toString s.id)] ++
    positionAttributes s.position ++
    sizeAttributes s.size ++
    [⟨nextLine, "npixelX", toString s.columns⟩,
      ⟨"\t", "npixelY", toString s.rows⟩,
      ⟨nextLine, "pitchX", amount s.pitchX⟩,
      ⟨"\t", "pitchY", amount s.pitchY⟩,
      ⟨"\t", "resolution", amount s.resolution⟩,
      ⟨nextLine, "rotation1", Decimal.tenths s.rotation.1⟩,
      ⟨"\t", "rotation2", Decimal.tenths s.rotation.2.1⟩,
      ⟨nextLine, "rotation3", Decimal.tenths s.rotation.2.2.1⟩,
      ⟨"\t", "rotation4", Decimal.tenths s.rotation.2.2.2⟩,
      lengthAttribute s.radiationLength]) nextLine

/-- A name inside a comment, which may hold no two dashes in a row. -/
def remark (name : String) : String := String.ofList (Markup.separated name.toList)

def Layer.items (l : Layer Float) : List Item :=
  line 6 (.comment (" Allpix Squared Detector: " ++ remark l.detector ++ " - type: " ++
    remark l.type ++ " ")) ++
  block 8 "layer" [] (line 10 l.ladder.item ++ line 10 l.sensitive.item)

def fieldItem (v : Vec3 Float) : Item :=
  let isNull := v.x == 0.0 && v.y == 0.0 && v.z == 0.0
  let component := fun (x : Float) => if isNull then "0.0" else amount x
  .empty "BField" [attr "type" "ConstantBField", attr "x" (component v.x),
    attr "y" (component v.y), attr "z" (component v.z)] ""

def Document.detectorItems (d : Document Float) : List Item :=
  line 6 (.empty "siplanesType" [attr "type" "TelescopeWithoutDUT"] "") ++
  line 6 (.empty "siplanesNumber" [attr "number" (toString d.layers.length)] "") ++
  line 6 (.empty "siplanesID" [attr "ID" "0"] "") ++
  block 6 "layers" [] (d.layers.flatMap Layer.items)

def Document.items (d : Document Float) : List Item :=
  line 0 (.instruction "xml version=\"1.0\" encoding=\"utf-8\"") ++
  line 0 (.comment
    " ?xml-stylesheet type=\"text/xsl\" href=\"https://cern.ch/allpix-squared/\"? ") ++
  line 0 (.comment " pxwriter GEAR schema 1.0 ") ++
  block 0 "gear" [] (
    line 2 (.empty "global" [attr "detectorName" d.detectorName] "") ++
    line 2 (fieldItem d.field) ++
    block 2 "detectors" [] (
      block 4 "detector" [attr "name" "SiPlanes", attr "geartype" "SiPlanesParameters"]
        d.detectorItems))

/-- The text of the geometry file, if all integers in it can be spelled out. -/
def Document.text (d : Document Float) : String := String.ofList (Markup.writeAll d.items)

/-- What a layer tells in integers. -/
def Layer.integers (l : Layer Float) : List Int :=
  [l.ladder.id, l.sensitive.id, l.sensitive.columns, l.sensitive.rows]

/-- Puts a document into the text of the geometry file, unless an integer is too long for it. -/
def Document.print (d : Document Float) : Except Failure String :=
  if d.layers.all fun l => l.integers.all Text.isSpellable then .ok d.text
  else .error (.number .malformed)

end PixelTelescope.Gear
