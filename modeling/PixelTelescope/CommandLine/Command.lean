import PixelTelescope.CommandLine.Arguments
import PixelTelescope.Job.Run

namespace PixelTelescope.CommandLine

inductive Command where
  /-- Writes the run that a configuration file describes. -/
  | run (config : String) (overrides : Overrides)
  /-- Draws the hit maps of a run file. -/
  | viz (run : String) (collection out : Option String)
  | help (usage : String)

def helpChoice : Choice := ⟨"help", none, false⟩

def runChoices : List Choice := [
  ⟨"workers", some 'j', true⟩, ⟨"n-events", some 'n', true⟩, ⟨"verbose", some 'v', false⟩,
  helpChoice]

def vizChoices : List Choice :=
  [⟨"collection", some 'c', true⟩, ⟨"out", some 'o', true⟩, helpChoice]

def runUsage : String := "Usage: run [-j WORKERS] [-n EVENTS] [-v] CONFIG\n"

def vizUsage : String := "Usage: viz [-c COLLECTION] [-o OUT] RUN\n"

/-- An integer option: nothing if it is not given, and no reading if it is no integer. -/
def wholeOption (a : Arguments) (long : String) : Option (Option Int) :=
  match a.value? long with
  | none => some none
  | some s => (Text.readInt s).map some

def runOf (a : Arguments) : Option Command := do
  let workers ← wholeOption a "workers"
  let events ← wholeOption a "n-events"
  match a.positionals with
  | [config] =>
    some (.run config {
      workers := workers.map Value.int
      events
      diagnostics := if a.isSet "verbose" then some 2 else none })
  | _ => none

def vizOf (a : Arguments) : Option Command :=
  match a.positionals with
  | [run] => some (.viz run (a.value? "collection") (a.value? "out"))
  | _ => none

def orHelp (usage : String) (of : Arguments → Option Command) (a : Arguments) : Option Command :=
  if a.isSet "help" then some (.help usage) else of a

/-- The command that a program of a name is called for, unless it is called wrongly. -/
def command? (program : String) (args : List String) : Option Command :=
  if program = "run" then (arguments? runChoices args).bind (orHelp runUsage runOf)
  else if program = "viz" then (arguments? vizChoices args).bind (orHelp vizUsage vizOf)
  else none

/-- How a command ends. -/
inductive Ending where
  | done
  | failed (f : Failure)
  | misused

def Ending.code : Ending → Nat
  | .done => 0
  | .failed _ => 1
  | .misused => 2

structure Outcome where
  disk : Disk (Run.Content Float)
  printed : String
  ending : Ending

def printedEntries (entries : List Entry) : String := String.join (entries.map Entry.line)

def summaryText (s : Writer.Summary) : String :=
  s.eventFile.text ++ "\n" ++ (s.geometryFile.map fun p => p.text ++ "\n").getD ""

def perform (processors : Option Int) (d : Disk (Run.Content Float)) : Command → Outcome
  | .run config overrides =>
    let after := Job.carryOut processors overrides config d
    let printed := printedEntries after.entries
    match after.result with
    | .ok s => ⟨after.state, printed ++ summaryText s, .done⟩
    | .error f => ⟨after.state, printed, .failed f⟩
  | .viz run collection out =>
    match Run.savePicture d run out collection with
    | .ok (picture, d) => ⟨d, "Wrote " ++ picture.path ++ "\n", .done⟩
    | .error f => ⟨d, "", .failed f⟩
  | .help usage => ⟨d, usage, .done⟩

/-- Carries out a call of a program. -/
def call (processors : Option Int) (d : Disk (Run.Content Float)) (program : String)
    (args : List String) : Outcome :=
  match command? program args with
  | some command => perform processors d command
  | none => ⟨d, "", .misused⟩

end PixelTelescope.CommandLine
