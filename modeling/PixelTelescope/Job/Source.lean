import PixelTelescope.Beam.Congruential
import PixelTelescope.Beam.Events
import PixelTelescope.Job.Basic
import PixelTelescope.Table.Events
import PixelTelescope.Table.Read

namespace PixelTelescope.Job

/-- The events of a job: those of a table, or made up from a seed. -/
def source (j : Job) (registry : Geometry.Registry Float) (d : Disk (Run.Content Float)) :
    Except Failure (Source (Delivery Float)) :=
  match j.config.source.format with
  | .table => do
    return Table.events (← Table.read {} d (j.config.source.inputPath.getD ""))
  | .synthetic =>
    let seed := j.config.run.seed.getD 0
    if seed < 0 then .error .generatorSeed
    else
      let settings : Beam.Settings Float :=
        { events := j.config.run.events, meanTracks := j.config.run.hitsPerDetector }
      .ok (Beam.events Beam.Congruential.generator settings registry
        (Beam.Congruential.seeded seed))

end PixelTelescope.Job
