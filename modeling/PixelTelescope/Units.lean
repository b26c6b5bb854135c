import PixelTelescope.Tensor.Value

namespace PixelTelescope

/-- Units that quantities are given in. Inside, lengths are in mm, times in ns, energies in MeV,
angles in rad and charges in e, so that 1 T is `1e-3`. -/
inductive Measure where
  | nm | um | mm | cm | m
  | ps | ns | us | ms | s
  | eV | keV | MeV | GeV
  | rad | mrad | deg
  | e
  | T | mT
  deriving Repr, DecidableEq

namespace Measure

def name : Measure → String
  | .nm => "nm" | .um => "um" | .mm => "mm" | .cm => "cm" | .m => "m"
  | .ps => "ps" | .ns => "ns" | .us => "us" | .ms => "ms" | .s => "s"
  | .eV => "eV" | .keV => "keV" | .MeV => "MeV" | .GeV => "GeV"
  | .rad => "rad" | .mrad => "mrad" | .deg => "deg"
  | .e => "e"
  | .T => "T" | .mT => "mT"

def all : List Measure :=
  [.nm, .um, .mm, .cm, .m, .ps, .ns, .us, .ms, .s, .eV, .keV, .MeV, .GeV, .rad, .mrad, .deg, .e,
    .T, .mT]

def ofName (name : String) : Except Failure Measure :=
  match all.find? fun unit => unit.name = name with
  | some unit => .ok unit
  | none => .error (.unknownUnit name)

variable {α : Type} [Scalar α]

/-- The size of the unit in internal units. -/
def factor : Measure → α
  | .nm => 1e-6 | .um => 1e-3 | .mm => 1.0 | .cm => 10.0 | .m => 1e3
  | .ps => 1e-3 | .ns => 1.0 | .us => 1e3 | .ms => 1e6 | .s => 1e9
  | .eV => 1e-6 | .keV => 1e-3 | .MeV => 1.0 | .GeV => 1e3
  | .rad => 1.0 | .mrad => 1e-3 | .deg => Scalar.pi / 180.0
  | .e => 1.0
  | .T => 1e-3 | .mT => 1e-6

/-- A quantity given in the unit, in internal units. -/
def inward (unit : Measure) (x : α) : α := x * unit.factor

/-- An internal quantity in the unit. -/
def outward (unit : Measure) (x : α) : α := x / unit.factor

end Measure

/-- Applies a conversion to a number or to every number of nested lists. -/
def convertValue (f : Float → Float) : Value → Except Failure (Tensor Float)
  | .list items => return (← Tensor.ofValue (.list items)).map f
  | v => do
    let x ← v.reading.amount
    return .scalar (f x)

end PixelTelescope
