import PixelTelescope.CommandLine.Command
import PixelTelescope.Run.Stored

namespace PixelTelescope.CommandLine

/-- The files that a command reads, as far as they are known from those that are on the disk. -/
def inputs (d : Disk (Run.Content Float)) : Command → List String
  | .run config overrides =>
    config :: match Job.load overrides d config with
      | .ok j => j.config.source.inputPath.toList
      | .error _ => []
  | .viz run _ _ => [run]
  | .help _ => []

/-- What a text stands for on a disk. -/
def contentOf (text : String) : Run.Content Float :=
  match Run.Stored.read? text with
  | some file => .run file
  | none => .text text

def textOf : Run.Content Float → String
  | .run file => Run.Stored.write file
  | .text s => s
  | .other => ""

/-- Puts a file on a disk with the directories above it. -/
def place (d : Disk (Run.Content Float)) (path text : String) : Disk (Run.Content Float) :=
  let p := Path.ofText path
  let d := (d.makeDirectories p.parent).toOption.getD d
  (d.write p (contentOf text)).toOption.getD d

/-- The files of a disk with their places and texts. -/
def texts (d : Disk (Run.Content Float)) : List (Location × String) :=
  d.nodes.filterMap fun (location, node) =>
    match node with
    | .file content => some (location, textOf content)
    | .directory => none

end PixelTelescope.CommandLine
