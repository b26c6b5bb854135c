import PixelTelescope.Proofs.Beam.Longer
import PixelTelescope.Proofs.Job.Aborted
import PixelTelescope.Proofs.Writer.Ending
import PixelTelescope.Proofs.Writer.Kept

namespace PixelTelescope.Job

open Writer (Progress Summary)

variable {σ : Type}

def beam (j : Job) : Beam.Settings Float :=
  { events := j.config.run.events, meanTracks := j.config.run.hitsPerDetector }

def feed (j : Job) (state : σ) : Beam.Feed σ := ⟨j.beam.events.toNat, j.beam.first, 0, state⟩

def beamSupply (g : Beam.Generator σ Float) (state : σ) (j : Job) : Supply := fun registry _ =>
  .ok (Beam.events g j.beam registry state)

/-- A run of a job that has come to its end, with synthetic events that are pulled while the run goes
on. Its geometry, if there is any, does not go to the place of the run file. -/
structure Completed (g : Beam.Generator σ Float) (state : σ) (processors : Option Int) (j : Job)
    (w : Writer) (before after : Progress) (summary : Summary) : Prop where
  synthetic : j.config.source.format = .synthetic
  writer : j.writer.result = .ok w
  started : (w.start before).result = .ok ()
  drained : ∃ workers n last, j.workers = .ok workers ∧
    Pool.Drains (Beam.Feed.pull g j.beam w.registry) (j.feed state) j.config.run.progress
      (fun e => w.write e.1 e.2) (w.start before).state (workers.resolve processors) (.ok n) last ∧
    (w.finalize last).result = .ok summary ∧ (w.finalize last).state = after
  apart : ∀ q, summary.geometryFile = some q →
    (w.start before).state.desk.disk.locate q ≠
      (w.start before).state.desk.disk.locate summary.eventFile

structure Keeps (w : Writer) (n : Nat) (after : Progress) (summary : Summary)
    (rs : List (Event.Record Float)) : Prop where
  length : rs.length = n
  count : summary.count = n
  named : summary.eventFile.SpelledBy summary.eventFile.text
  header : ∀ name, summary.eventFile.SpelledBy name → after.header name =
    .ok ⟨w.run, w.settings.detectorName, n, Run.formatVersion⟩
  events : ∀ name, summary.eventFile.SpelledBy name → after.events name = .ok rs

/-- A job that asks for as many events as another one or more, and else for the same events of the
same telescope. How they are handled and logged may differ. -/
structure Lengthens (j j' : Job) : Prop where
  config : j.config = { j'.config with run := { j'.config.run with
    events := j.config.run.events
    workers := j.config.run.workers
    progress := j.config.run.progress
    diagnostics := j.config.run.diagnostics } }
  events : j'.config.run.events ≤ j.config.run.events

variable {g : Beam.Generator σ Float} {state : σ} {processors processors' : Option Int}
  {j j' : Job} {w w' : Writer} {before before' after after' : Progress}
  {summary summary' : Summary}

theorem source_eq_beamSupply (hformat : j.config.source.format = .synthetic)
    (hseed : 0 ≤ j.config.run.seed.getD 0) :
    j.source = beamSupply Beam.Congruential.generator
      (Beam.Congruential.seeded (j.config.run.seed.getD 0)) j := by
  funext registry d
  simp only [source, hformat, if_neg (Int.not_lt.mpr hseed)]
  rfl

theorem beam_source (g : Beam.Generator σ Float) (state : σ) (j : Job)
    (registry : Geometry.Registry Float) :
    (j.feed state).source g j.beam registry = Beam.events g j.beam registry state := rfl

/-- A run that comes to its end with the events of a beam is one that pulls them. -/
theorem writeFrom_completed (hformat : j.config.source.format = .synthetic)
    (hok : (writeFrom (beamSupply g state j) processors j before).result = .ok summary)
    (hapart : ∀ w, j.writer.result = .ok w → ∀ q, summary.geometryFile = some q →
      (w.start before).state.desk.disk.locate q ≠
        (w.start before).state.desk.disk.locate summary.eventFile) :
    ∃ w, Completed g state processors j w before
      (writeFrom (beamSupply g state j) processors j before).state summary := by
  obtain ⟨w, n, hwriter, hstart, hdrained, hfinal, hafter⟩ := of_writeFrom_ok hok
  obtain ⟨-, hnormal, -⟩ := writer_ok hwriter
  obtain ⟨path, hholds⟩ := Writer.start_holds hnormal hstart
  have hopen := hholds.desk.session.stage
  refine ⟨w, hformat, hwriter, hstart, ?_, hapart w hwriter⟩
  rw [hafter]
  simp only [drainFrom, beamSupply] at hdrained hfinal ⊢
  cases hworkers : j.workers with
  | error f =>
    simp [hworkers, Writer.process, hopen, bind, Act.andThen, Act.ofResult] at hdrained
  | ok workers =>
    rw [hworkers] at hdrained hfinal
    obtain ⟨hs, hr⟩ := Writer.process_eq (w := w) hopen processors workers j.config.run.progress
      (Beam.events g j.beam w.registry state)
    rw [hr] at hdrained
    refine ⟨workers, n, _, rfl, hs ▸ Pool.process_drains ?_ hdrained, hfinal, rfl⟩
    exact Beam.Feed.supply_eq (j.feed state)

/-- In whatever order events are handled, their file has them in the order of their numbers. -/
theorem byNumber_built {es events : List (Delivery Float)} {stored : List (Event.Record Float)}
    (hperm : es.Perm events) (hbuilt : es.mapM (fun e => w.builder.build e.1 e.2) = .ok stored)
    (hincreasing : (events.map (·.1)).Pairwise (· < ·)) :
    events.mapM (fun e => w.builder.build e.1 e.2) = .ok (Run.byNumber stored) := by
  obtain ⟨rs, hrs, hsame⟩ := List.perm_comp_forall₂ hperm.symm (mapM_eq_ok.mp hbuilt)
  have hall := mapM_eq_ok.mpr hrs
  have hsorted : rs.Pairwise fun a b => a.number < b.number := by
    rw [← List.pairwise_map, Writer.numbers_of_built hall]
    exact hincreasing
  have hdistinct : (rs.map (·.number)).Nodup := by
    rw [Writer.numbers_of_built hall]
    exact hincreasing.imp Int.ne_of_lt
  have hdistinct' := (hsame.map (·.number)).nodup_iff.mp hdistinct
  have hkept : Run.byNumber stored = rs := by
    refine ((Run.byNumber_perm stored).trans hsame.symm).eq_of_pairwise ?_
      (Run.byNumber_pairwise hdistinct') hsorted
    intro a b _ _ hab hba
    omega
  rw [hkept, hall]

/-- A completed run keeps the events that its beam comes to, all of them and in their order. -/
theorem Completed.keeps (h : Completed g state processors j w before after summary) :
    ∃ rs, (Beam.events g j.beam w.registry state).events.mapM
        (fun e => w.builder.build e.1 e.2) = .ok rs ∧
      Keeps w j.config.run.events.toNat after summary rs := by
  obtain ⟨workers, n, last, -, hdrains, hfinal, rfl⟩ := h.drained
  obtain ⟨-, hnormal, -⟩ := writer_ok h.writer
  obtain ⟨path, hholds⟩ := Writer.start_holds hnormal h.started
  obtain ⟨hfailure, es, hperm, hall, rfl⟩ := hdrains.ok (Beam.Feed.supply_eq (j.feed state))
  rw [beam_source] at hfailure hperm
  obtain ⟨hbuilt, hsettled, -⟩ := hholds.settle_stored hall
  have hrs := byNumber_built hperm hbuilt
    (Beam.eventsFrom_increasing j.beam.events.toNat j.beam.first 0 state).1
  have hlength := Beam.eventsFrom_length hfailure
  obtain ⟨stored, hstored⟩ : ∃ stored, stored = Writer.returned
    (Pool.outcomes (fun e => w.write e.1 e.2) (w.start before).state es) := ⟨_, rfl⟩
  rw [← hstored] at hsettled hrs
  have hcount : (Run.byNumber stored).length = j.config.run.events.toNat :=
    (mapM_eq_ok.mp hrs).length_eq.symm.trans hlength
  obtain rfl := hsettled.finalize_tells hfinal
  -- events do not change where paths lead, so the geometry is still apart from the run file
  have hfollows := Writer.follows_settle (w := w) hholds.desk.rests es
  have hshows := hsettled.finalize_shows fun q hq => by
    rw [hfollows.desk.locate, hfollows.desk.locate]
    exact h.apart q hq
  refine ⟨_, hrs, hcount, ?_, hholds.spelledBy, ?_, hshows.events⟩
  · exact (Run.byNumber_perm stored).length_eq.symm.trans hcount
  · rw [← hcount]
    exact hshows.header

/-- Jobs that ask for events of the same telescope have the same writer, but for the text of their
configuration. -/
theorem Lengthens.writer (h : j.Lengthens j') (hw : j.writer.result = .ok w)
    (hw' : j'.writer.result = .ok w') : w' = { w with configText := some j'.text } := by
  have hdetectors : j.config.detectors = j'.config.detectors := congrArg (·.detectors) h.config
  have hfield : j.config.field = j'.config.field := congrArg (·.field) h.config
  have hsettings : j.config.writer = j'.config.writer := congrArg (·.writer) h.config
  have hsource : j.config.source = j'.config.source := congrArg (·.source) h.config
  have hrun : j.config.run.number = j'.config.run.number := congrArg (·.run.number) h.config
  unfold Job.writer at hw hw'
  rw [hdetectors, hfield, hsettings, hsource, hrun] at hw
  split at hw'
  · contradiction
  · rename_i registry hregistry
    rw [hregistry] at hw
    obtain ⟨a, ha, rfl⟩ := map_eq_ok.mp hw
    obtain ⟨b, hb, rfl⟩ := map_eq_ok.mp hw'
    obtain rfl : a = b := Except.ok.inj (ha.symm.trans hb)
    rfl

/-- The shorter of two jobs makes up the first events of the longer one. -/
theorem Lengthens.events_take (h : j.Lengthens j') (registry : Geometry.Registry Float) :
    (Beam.events g j'.beam registry state).events =
      (Beam.events g j.beam registry state).events.take j'.config.run.events.toNat := by
  have hmean : j.config.run.hitsPerDetector = j'.config.run.hitsPerDetector :=
    congrArg (·.run.hitsPerDetector) h.config
  have hbeam : j'.beam = { j.beam with events := j'.config.run.events } := by
    simp only [beam, hmean]
  have hle : j'.config.run.events.toNat ≤ j.config.run.events.toNat := Int.toNat_le_toNat h.events
  rw [hbeam]
  simp only [Beam.events, Beam.eventsFrom_settings]
  exact Beam.eventsFrom_take hle j.beam.first 0 state

/-- A run that a configuration file describes is such a run, where it comes to its end. -/
theorem carryOut_completed {o : Overrides} {d : Disk (Run.Content Float)} {path : String}
    (hload : load o d path = .ok j) (hformat : j.config.source.format = .synthetic)
    (hseed : 0 ≤ j.config.run.seed.getD 0)
    (hok : (carryOut processors o path d).result = .ok summary)
    (hapart : ∀ w, j.writer.result = .ok w → ∀ q, summary.geometryFile = some q →
      (w.start { desk := { disk := d } }).state.desk.disk.locate q ≠
        (w.start { desk := { disk := d } }).state.desk.disk.locate summary.eventFile) :
    ∃ w after, Completed Beam.Congruential.generator
        (Beam.Congruential.seeded (j.config.run.seed.getD 0)) processors j w
        { desk := { disk := d } } after summary ∧
      (carryOut processors o path d).state = after.desk.disk := by
  obtain ⟨hstate, hresult⟩ := carryOut_state processors hload
  rw [source_eq_beamSupply hformat hseed] at hstate hresult
  obtain ⟨w, hcompleted⟩ := writeFrom_completed hformat (hresult.symm.trans hok) hapart
  exact ⟨w, _, hcompleted, hstate⟩

/-- To ask for more events of a beam adds events behind those that are there, and changes none of
them: not by the further events, nor by how many threads there are and how they take turns. -/
theorem longer_beam_adds_events (hlonger : j.Lengthens j')
    (h : Completed g state processors j w before after summary)
    (h' : Completed g state processors' j' w' before' after' summary') :
    ∃ rs, (Beam.events g j.beam w.registry state).events.mapM
        (fun e => w.builder.build e.1 e.2) = .ok rs ∧
      Keeps w j.config.run.events.toNat after summary rs ∧
      Keeps w' j'.config.run.events.toNat after' summary'
        (rs.take j'.config.run.events.toNat) := by
  obtain ⟨rs, hrs, hkeeps⟩ := h.keeps
  obtain ⟨first, hfirst, hkeeps'⟩ := h'.keeps
  obtain rfl := hlonger.writer h.writer h'.writer
  have htaken := mapM_eq_ok.mpr
    (List.forall₂_take j'.config.run.events.toNat (mapM_eq_ok.mp hrs))
  rw [hlonger.events_take, htaken] at hfirst
  obtain rfl := Except.ok.inj hfirst
  exact ⟨rs, hrs, hkeeps, hkeeps'⟩

/-- A generator whose events have one track more each time, all alike. -/
def growingBeam : Beam.Generator Nat Float where
  count _ := fun state => .ok (state, state + 1)
  uniform low _ := pure low
  normal mean _ := pure mean
  gamma shape _ := pure shape

def quietJob (events : Int) (threads : Int) : Job :=
  { planeJob with
    config := { planeJob.config with
      run := { planeJob.config.run with events, progress := false }
      writer := { geometryFile := none } }
    workers := .ok (.count threads) }

def quietRun (events threads : Int) : After Progress Summary :=
  writeFrom (beamSupply growingBeam 1 (quietJob events threads)) none (quietJob events threads)
    Writer.emptyDesk

/-- Two events in the calling thread, of one and two tracks, and the first of them on three
threads. -/
theorem longer_beam_adds_events_two : ∃ w w' rs,
    rs.map (·.hitCount) = [1, 2] ∧
      Keeps w 2 (quietRun 2 0).state ⟨2, .ofText "output/output.h5", none⟩ rs ∧
      Keeps w' 1 (quietRun 1 3).state ⟨1, .ofText "output/output.h5", none⟩ (rs.take 1) := by
  have hlong : (quietRun 2 0).result = .ok ⟨2, .ofText "output/output.h5", none⟩ := by
    decide +kernel
  have hshort : (quietRun 1 3).result = .ok ⟨1, .ofText "output/output.h5", none⟩ := by
    decide +kernel
  have hall : (quietJob 2 0).writer.result.toOption.all (fun w =>
      ((Beam.events growingBeam (quietJob 2 0).beam w.registry 1).events.mapM
        (fun e => w.builder.build e.1 e.2)).map (·.map (·.hitCount)) = .ok [1, 2]) = true := by
    decide +kernel
  obtain ⟨w, h⟩ := writeFrom_completed rfl hlong (by simp)
  obtain ⟨w', h'⟩ := writeFrom_completed rfl hshort (by simp)
  have hlonger : (quietJob 2 0).Lengthens (quietJob 1 3) := ⟨rfl, by decide⟩
  obtain ⟨rs, hbuilt, hkeeps, hkeeps'⟩ := longer_beam_adds_events hlonger h h'
  rw [h.writer] at hall
  have hhits := of_decide_eq_true hall
  rw [hbuilt] at hhits
  exact ⟨w, w', rs, Except.ok.inj hhits, hkeeps, hkeeps'⟩

end PixelTelescope.Job
