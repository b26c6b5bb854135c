import PixelTelescope.Tensor.Basic

namespace PixelTelescope.Geometry

structure Vec3 (α : Type) where
  x : α
  y : α
  z : α
  deriving Repr, DecidableEq

/-- Three rows. -/
structure Mat3 (α : Type) where
  a : Vec3 α
  b : Vec3 α
  c : Vec3 α
  deriving Repr, DecidableEq

variable {α : Type}

namespace Vec3

def toList (v : Vec3 α) : List α := [v.x, v.y, v.z]

def map {β : Type} (f : α → β) (v : Vec3 α) : Vec3 β := ⟨f v.x, f v.y, f v.z⟩

def toTensor (v : Vec3 α) : Tensor α := .vector v.toList

def dot [Scalar α] (v w : Vec3 α) : α := 0.0 + v.x * w.x + v.y * w.y + v.z * w.z

end Vec3

namespace Mat3

def transpose (m : Mat3 α) : Mat3 α :=
  ⟨⟨m.a.x, m.b.x, m.c.x⟩, ⟨m.a.y, m.b.y, m.c.y⟩, ⟨m.a.z, m.b.z, m.c.z⟩⟩

def toLists (m : Mat3 α) : List (List α) := [m.a.toList, m.b.toList, m.c.toList]

def toTensor (m : Mat3 α) : Tensor α := ⟨[3, 3], m.toLists.flatten⟩

def ofTensor (t : Tensor α) : Except Failure (Mat3 α) :=
  match t.sizes, t.entries with
  | [3, 3], [xx, xy, xz, yx, yy, yz, zx, zy, zz] =>
    .ok ⟨⟨xx, xy, xz⟩, ⟨yx, yy, yz⟩, ⟨zx, zy, zz⟩⟩
  | sizes, _ => .error (.notRotation sizes)

variable [Scalar α]

def apply (m : Mat3 α) (v : Vec3 α) : Vec3 α := ⟨m.a.dot v, m.b.dot v, m.c.dot v⟩

def multiply (m n : Mat3 α) : Mat3 α :=
  let t := n.transpose
  ⟨t.apply m.a, t.apply m.b, t.apply m.c⟩

def identity : Mat3 α := ⟨⟨1.0, 0.0, 0.0⟩, ⟨0.0, 1.0, 0.0⟩, ⟨0.0, 0.0, 1.0⟩⟩

def determinant (m : Mat3 α) : α :=
  m.a.x * (m.b.y * m.c.z - m.b.z * m.c.y) - m.a.y * (m.b.x * m.c.z - m.b.z * m.c.x) +
    m.a.z * (m.b.x * m.c.y - m.b.y * m.c.x)

end Mat3

variable [Scalar α]

/-- Turns in the ZY plane (about x), then in the ZX plane (about y), then in the XY plane
(about z), each by an angle in radians. -/
def rotationMatrix (alpha beta gamma : α) : Mat3 α :=
  let ca := Scalar.cos alpha
  let sa := Scalar.sin alpha
  let cb := Scalar.cos beta
  let sb := Scalar.sin beta
  let cg := Scalar.cos gamma
  let sg := Scalar.sin gamma
  let aboutX : Mat3 α := ⟨⟨1.0, 0.0, 0.0⟩, ⟨0.0, ca, -sa⟩, ⟨0.0, sa, ca⟩⟩
  let aboutY : Mat3 α := ⟨⟨cb, 0.0, sb⟩, ⟨0.0, 1.0, 0.0⟩, ⟨-sb, 0.0, cb⟩⟩
  let aboutZ : Mat3 α := ⟨⟨cg, -sg, 0.0⟩, ⟨sg, cg, 0.0⟩, ⟨0.0, 0.0, 1.0⟩⟩
  (aboutZ.multiply aboutY).multiply aboutX

/-- The angles that give a rotation back, the middle one between minus and plus a right angle.
Where the first and the last turn about one axis the first angle is zero. -/
def rotationAngles (m : Mat3 α) : Vec3 α :=
  let beta := Scalar.arctan2 (-m.c.x) (Scalar.hypot m.c.y m.c.z)
  if Scalar.less (Scalar.hypot m.a.x m.b.x) 1e-12 then
    ⟨0.0, beta, Scalar.arctan2 (-m.a.y) m.b.y⟩
  else ⟨Scalar.arctan2 m.c.y m.c.z, beta, Scalar.arctan2 m.b.x m.a.x⟩

/-- Equality up to a tolerance and a part in `10 ^ 5` of the second number. -/
def isNear (tolerance x y : α) : Bool :=
  Scalar.notMore (Scalar.abs (x - y)) (tolerance + 1e-5 * Scalar.abs y)

def isRotation (tolerance : α) (m : Mat3 α) : Bool :=
  let product := (m.multiply m.transpose).toLists.flatten
  let identity := (Mat3.identity : Mat3 α).toLists.flatten
  ((product.zip identity).all fun (x, y) => isNear tolerance x y) &&
    isNear tolerance m.determinant 1.0

end PixelTelescope.Geometry
