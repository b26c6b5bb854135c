import PixelTelescope.Config.Load
import PixelTelescope.Geometry.Configured
import PixelTelescope.Writer.Process

namespace PixelTelescope

/-- What is set beside the configuration and wins over it. The number of threads is looked at only
when events are handled. -/
structure Overrides where
  workers : Option Value := none
  events : Option Int := none
  diagnostics : Option Int := none

/-- A run that is to be written as a configuration file says. -/
structure Job where
  path : String
  text : String
  config : Config
  workers : Except Failure Workers

namespace Overrides

def apply (o : Overrides) (c : Config) : Config :=
  { c with run := { c.run with
      events := o.events.getD c.run.events
      diagnostics := o.diagnostics.getD c.run.diagnostics } }

def resolveWorkers (o : Overrides) (c : Config) : Except Failure Workers :=
  match o.workers with
  | some v => Workers.ofValue v
  | none => .ok c.run.workers

end Overrides

namespace Job

/-- Reads a configuration file. -/
def load (o : Overrides) (d : Disk (Run.Content Float)) (path : String) : Except Failure Job := do
  let source := Path.ofText path
  let text ← Run.readText d source
  let config ← Config.ofText source.text text
  return { path, text, config := o.apply config, workers := o.resolveWorkers config }

def threshold (j : Job) : Level := .ofDiagnostics j.config.run.diagnostics

def opening (j : Job) : List Entry := [
  .info ("[run] config = " ++ j.path),
  .info ("[run] source=" ++ j.config.source.format.text ++ " -> output_dir=" ++
    j.config.source.outputDir)]

/-- The writer for the telescope of the configuration. -/
def writer (j : Job) : Logged (Except Failure Writer) :=
  match Geometry.Registry.ofSections j.config.detectors (some j.config.field) with
  | .error f => ⟨[], .error f⟩
  | .ok registry =>
    Writer.create j.config.writer registry j.config.source.outputDir j.config.run.number
      (some j.text)

end Job

end PixelTelescope
