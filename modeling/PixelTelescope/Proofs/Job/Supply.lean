import PixelTelescope.Job.Run
import PixelTelescope.Proofs.Pool.Serial
import PixelTelescope.Proofs.Writer.Threads

namespace PixelTelescope.Job

open Writer (Progress Summary)

/-- What gives the events of a run once its file is open. -/
abbrev Supply :=
  Geometry.Registry Float → Disk (Run.Content Float) → Except Failure (Source (Delivery Float))

def drainFrom (supply : Supply) (processors : Option Int) (j : Job) (w : Writer) :
    Act Progress Nat := fun p =>
  match supply w.registry p.desk.disk with
  | .error f => ⟨p, [], .error f⟩
  | .ok source => w.process processors j.workers j.config.run.progress source p

def writeFrom (supply : Supply) (processors : Option Int) (j : Job) : Act Progress Summary := do
  Act.log j.opening
  Act.log j.writer.entries
  let w ← Act.ofResult j.writer.result
  w.start
  match ← (drainFrom supply processors j w).attempt with
  | .ok _ => w.finalize
  | .error f => giveUp f

/-- A job supplies itself with events. -/
theorem write_eq_writeFrom (processors : Option Int) (j : Job) :
    j.write processors = writeFrom j.source processors j := rfl

variable {j : Job} {w : Writer} {processors : Option Int} {workers : Workers} {supply : Supply}
  {p before : Progress} {f : Failure}

/-- What a writer has from the configuration. -/
theorem writer_ok (h : j.writer.result = .ok w) :
    (j.config.writer.request w.registry.names).resolve = .ok w.assignment ∧
      w.outputDir.Normal ∧ w.builder.run = w.run ∧ w.builder.eventType = w.settings.eventType := by
  unfold writer at h
  split at h
  · contradiction
  · obtain ⟨hresolve, -, hrun, htype⟩ := Writer.create_ok h
    exact ⟨hresolve, Writer.create_outputDir h, hrun, htype⟩

theorem drainFrom_given {source : Source (Delivery Float)} (hworkers : j.workers = .ok workers)
    (hserial : workers.resolve processors = 0) (hopen : p.desk.session.stage = .open)
    (hgiven : supply w.registry p.desk.disk = .ok source) :
    (drainFrom supply processors j w p).state =
        (Pool.inOrder (fun e => w.write e.1 e.2) source p).state ∧
      (drainFrom supply processors j w p).result =
        (Pool.inOrder (fun e => w.write e.1 e.2) source p).result := by
  have hdrain := Writer.process_eq (w := w) hopen processors workers j.config.run.progress source
  rw [Pool.process_serial hserial] at hdrain
  simp only [drainFrom, hgiven, hworkers]
  exact hdrain

/-- A run whose supply or event fails is given up. -/
theorem writeFrom_failed (hwriter : j.writer.result = .ok w)
    (hstart : (w.start before).result = .ok ())
    (hdrain : (drainFrom supply processors j w (w.start before).state).result = .error f)
    (hstate : (drainFrom supply processors j w (w.start before).state).state = p) :
    (writeFrom supply processors j before).state = (giveUp f p).state ∧
      (writeFrom supply processors j before).result = (giveUp f p).result ∧
      ∀ entry, (giveUp f p).entries.getLast? = some entry →
        (writeFrom supply processors j before).entries.getLast? = some entry := by
  simp only [writeFrom, bind, Act.andThen, Act.log, Act.ofResult, Act.attempt, hwriter, hstart,
    hdrain, hstate]
  refine ⟨trivial, trivial, fun entry hlast => ?_⟩
  simp [List.getLast?_append, hlast]

/-- A run that is given up does not come to its end. -/
theorem giveUp_failed (f : Failure) (p : Progress) (summary : Summary) :
    (giveUp f p).result ≠ .ok summary := by
  intro hok
  obtain ⟨_, -, hrest, -⟩ := Act.of_bind_ok hok
  contradiction

/-- What a run that comes to its end has gone through. -/
theorem of_writeFrom_ok {summary : Summary}
    (hok : (writeFrom supply processors j before).result = .ok summary) :
    ∃ w n, j.writer.result = .ok w ∧ (w.start before).result = .ok () ∧
      (drainFrom supply processors j w (w.start before).state).result = .ok n ∧
      (w.finalize (drainFrom supply processors j w (w.start before).state).state).result =
        .ok summary ∧
      (writeFrom supply processors j before).state =
        (w.finalize (drainFrom supply processors j w (w.start before).state).state).state := by
  unfold writeFrom at hok ⊢
  obtain ⟨_, -, hok, hs₁⟩ := Act.of_bind_ok hok
  obtain ⟨_, -, hok, hs₂⟩ := Act.of_bind_ok hok
  obtain ⟨w, hwriter, hok, hs₃⟩ := Act.of_bind_ok hok
  obtain ⟨_, hstart, hok, hs₄⟩ := Act.of_bind_ok hok
  obtain ⟨drained, hdrained, hok, hs₅⟩ := Act.of_bind_ok hok
  rw [hs₁, hs₂, hs₃, hs₄, hs₅]
  cases drained with
  | error f => exact absurd hok (giveUp_failed f _ summary)
  | ok n => exact ⟨w, n, hwriter, hstart, Except.ok.inj hdrained, hok, rfl⟩

theorem carryOut_state (processors : Option Int) {o : Overrides} {d : Disk (Run.Content Float)}
    {path : String} (hload : load o d path = .ok j) :
    (carryOut processors o path d).state =
        (writeFrom j.source processors j { desk := { disk := d } }).state.desk.disk ∧
      (carryOut processors o path d).result =
        (writeFrom j.source processors j { desk := { disk := d } }).result := by
  simp only [carryOut, hload, write_eq_writeFrom]
  exact ⟨trivial, trivial⟩

end PixelTelescope.Job
