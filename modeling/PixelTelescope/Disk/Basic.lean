import PixelTelescope.Disk.Path
import PixelTelescope.Failure
import PixelTelescope.Keyed

namespace PixelTelescope

/-- Where something stands: the names on the way from the root. -/
abbrev Location := List String

inductive Node (β : Type) where
  | directory
  | file (content : β)
  deriving Repr

/-- Directories and files with contents of a type, as seen from a working directory. -/
structure Disk (β : Type) where
  home : Location
  nodes : List (Location × Node β)
  deriving Repr

namespace Disk

variable {β : Type}

/-- The working directory and those above it. -/
def empty (home : Location) : Disk β :=
  ⟨home, (List.range home.length).map fun n => (home.take (n + 1), .directory)⟩

def node? (d : Disk β) (location : Location) : Option (Node β) :=
  if location = [] then some .directory else Keyed.get? location d.nodes

/-- The longest name in bytes. -/
def nameLimit : Nat := 255

/-- Follows names from a directory on; all but the last have to lead to directories. -/
def walk (d : Disk β) : Location → List String → Except FileFault Location
  | here, [] => .ok here
  | here, ".." :: rest => walk d here.dropLast rest
  | here, [name] =>
    if name.utf8ByteSize > nameLimit then .error .nameTooLong else .ok (here ++ [name])
  | here, name :: rest =>
    if name.utf8ByteSize > nameLimit then .error .nameTooLong
    else
      match d.node? (here ++ [name]) with
      | some .directory => walk d (here ++ [name]) rest
      | some (.file _) => .error .notDirectory
      | none => .error .notFound

def hasNul (p : Path) : Bool := p.parts.any fun part => part.toList.contains '\x00'

def locate (d : Disk β) (p : Path) : Except FileFault Location :=
  if hasNul p then .error .badName
  else d.walk (if p.isAbsolute then [] else d.home) p.parts

/-- What a path leads to. -/
def find (d : Disk β) (p : Path) : Except FileFault (Node β) := do
  match d.node? (← d.locate p) with
  | some node => .ok node
  | none => .error .notFound

def put (d : Disk β) (location : Location) (node : Node β) : Disk β :=
  { d with nodes := Keyed.put location node d.nodes }

/-- Makes one directory in a directory that is there. -/
def makeDirectory (d : Disk β) (p : Path) : Except FileFault (Disk β) := do
  let location ← d.locate p
  match d.node? location with
  | some _ => .error .exists
  | none => .ok (d.put location .directory)

/-- Makes a directory where none stands yet. -/
def ensureDirectory (d : Disk β) (p : Path) : Except FileFault (Disk β) :=
  match d.makeDirectory p with
  | .ok made => .ok made
  | .error .badName => .error .badName
  | .error fault =>
    match d.find p with
    | .ok .directory => .ok d
    | _ => .error fault

/-- Makes a directory with those above it; `above` counts the parts that can still be missing. -/
def makeDirectoriesFrom (d : Disk β) (p : Path) : Nat → Except FileFault (Disk β)
  | 0 => d.ensureDirectory p
  | above + 1 =>
    match d.makeDirectory p with
    | .error .notFound =>
      if p.parts = [] then .error .notFound
      else do ensureDirectory (← makeDirectoriesFrom d p.parent above) p
    | _ => d.ensureDirectory p

def makeDirectories (d : Disk β) (p : Path) : Except FileFault (Disk β) :=
  d.makeDirectoriesFrom p p.parts.length

/-- Puts a file at a path, in place of a file that stands there. -/
def write (d : Disk β) (p : Path) (content : β) : Except FileFault (Disk β) := do
  let location ← d.locate p
  match d.node? location with
  | some .directory => .error .isDirectory
  | _ => .ok (d.put location (.file content))

/-- The content of a file that is named by a text as it was given. -/
def read (d : Disk β) (path : String) : Except FileFault β := do
  if path = "" then .error .notFound
  else
    match ← d.find (.ofText path) with
    | .directory => .error .isDirectory
    | .file content => if path.endsWith "/" then .error .notDirectory else .ok content

end Disk

end PixelTelescope
