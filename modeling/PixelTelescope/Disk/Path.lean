namespace PixelTelescope

/-- A path without empty steps: where it starts and the names on the way. -/
structure Path where
  /-- Nothing for a path from the working directory. -/
  root : String := ""
  parts : List String
  deriving Repr, DecidableEq

namespace Path

/-- Two slashes in front stand for a root of their own; any other number stands for one. -/
def rootOf (cs : List Char) : String :=
  match cs with
  | '/' :: '/' :: '/' :: _ => "/"
  | '/' :: '/' :: _ => "//"
  | '/' :: _ => "/"
  | _ => ""

def partsOf (s : String) : List String :=
  ((s.toList.splitOn '/').map String.ofList).filter fun part => part ≠ "" && part ≠ "."

def ofText (s : String) : Path := ⟨rootOf s.toList, partsOf s⟩

def text (p : Path) : String :=
  let all := p.root ++ "/".intercalate p.parts
  if all = "" then "." else all

def isAbsolute (p : Path) : Bool := p.root ≠ ""

/-- A path from inside a directory; an absolute one stays as it is. -/
def join (directory p : Path) : Path :=
  if p.isAbsolute then p else ⟨directory.root, directory.parts ++ p.parts⟩

def parent (p : Path) : Path := { p with parts := p.parts.dropLast }

def name (p : Path) : String := p.parts.getLast?.getD ""

/-- Splits a name before its last point, unless that stands first or last. -/
def splitSuffix (name : String) : String × String :=
  let reversed := name.toList.reverse
  let suffix := reversed.takeWhile (· ≠ '.')
  let stem := (reversed.dropWhile (· ≠ '.')).drop 1
  if suffix.isEmpty || stem.isEmpty then (name, "")
  else (String.ofList stem.reverse, String.ofList ('.' :: suffix.reverse))

def suffix (p : Path) : String := (splitSuffix p.name).2

/-- The path with another suffix, if it has a name and the suffix is one. -/
def withSuffix? (p : Path) (suffix : String) : Option Path :=
  if p.name = "" || suffix = "." || suffix.toList.contains '/' then none
  else some { p with parts := p.parts.dropLast ++ [(splitSuffix p.name).1 ++ suffix] }

end Path

end PixelTelescope
