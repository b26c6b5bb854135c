import PixelTelescope.CommandLine.Files

namespace PixelTelescope.CommandLine

def rooted (names : Location) : String := "/" ++ "/".intercalate names

/-- Puts the files that are there on the disk. -/
def load (d : Disk (Run.Content Float)) (paths : List String) :
    IO (Disk (Run.Content Float)) :=
  paths.foldlM (fun d (path : String) => do
    try return place d path (← IO.FS.readFile path)
    catch _ => return d) d

/-- Writes the files that a disk has now and had not before. -/
def store (before after : List (Location × String)) : IO Unit := do
  for (names, text) in after do
    unless before.contains (names, text) do
      IO.FS.createDirAll (rooted names.dropLast)
      IO.FS.writeFile (rooted names) text

def carryOut (command : Command) : IO UInt32 := do
  let here := toString (← IO.currentDir)
  let empty : Disk (Run.Content Float) := .empty (Path.ofText here).parts
  let first ← load empty (inputs empty command)
  let disk ← load empty (inputs first command)
  let o := perform none disk command
  store (texts disk) (texts o.disk)
  IO.print o.printed
  match o.ending with
  | .failed f => IO.eprintln f.text
  | _ => pure ()
  return UInt32.ofNat o.ending.code

end PixelTelescope.CommandLine

open PixelTelescope.CommandLine in
def main (args : List String) : IO UInt32 := do
  match command? (args.headD "") (args.drop 1) with
  | some command => carryOut command
  | none =>
    IO.eprint (runUsage ++ vizUsage)
    return 2
