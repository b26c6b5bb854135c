import PixelTelescope.Job.Source

namespace PixelTelescope.Job

open Writer (Progress Summary)

/-- Writes the events of a job into the open run. -/
def drain (processors : Option Int) (j : Job) (w : Writer) : Act Progress Nat := fun p =>
  match j.source w.registry p.desk.disk with
  | .error f => ⟨p, [], .error f⟩
  | .ok source => w.process processors j.workers j.config.run.progress source p

/-- Closes the run file with the events that it has, and fails. -/
def giveUp (f : Failure) : Act Progress Summary := do
  let n ← Writer.abort
  let rest : Act Progress Summary := fun p =>
    ⟨p, [.error ("Run aborted after " ++ toString n ++ " events; partial file kept at " ++
      (Writer.eventPath p).text)], .error f⟩
  rest

def write (processors : Option Int) (j : Job) : Act Progress Summary := do
  Act.log j.opening
  Act.log j.writer.entries
  let w ← Act.ofResult j.writer.result
  w.start
  match ← (j.drain processors w).attempt with
  | .ok _ => w.finalize
  | .error f => giveUp f

/-- Writes the run that a configuration file describes; only what its diagnostics ask for is
logged. -/
def carryOut (processors : Option Int) (o : Overrides) (path : String) :
    Act (Disk (Run.Content Float)) Summary := fun d =>
  match load o d path with
  | .error f => ⟨d, [], .error f⟩
  | .ok j =>
    let after := j.write processors { desk := { disk := d } }
    ⟨after.state.desk.disk, after.entries.filter (·.isShown j.threshold), after.result⟩

end PixelTelescope.Job
