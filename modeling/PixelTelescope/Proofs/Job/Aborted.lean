import PixelTelescope.Proofs.Job.Supply
import PixelTelescope.Proofs.Writer.Beside
import PixelTelescope.Proofs.Writer.Kept

namespace PixelTelescope.Job

open Writer (Progress Summary)

/-- How a run without threads fails once its file is open: these events are stored, and then the
next one fails, or the supply does. What an event that fails has begun to store can be cleared
away. -/
inductive FailsAt (w : Writer) (supply : Supply) (p : Progress) :
    List (Delivery Float) → Failure → Prop where
  | supply {f : Failure} (raised : supply w.registry p.desk.disk = .error f) :
      FailsAt w supply p [] f
  | source {source : Source (Delivery Float)} {f : Failure}
      (given : supply w.registry p.desk.disk = .ok source)
      (stored : ∀ o ∈ Pool.outcomes (fun e => w.write e.1 e.2) p source.events, ∃ r, o.2 = .ok r)
      (raised : source.failure = some f) : FailsAt w supply p source.events f
  | event {source : Source (Delivery Float)} {es rest : List (Delivery Float)}
      {e : Delivery Float} {f : Failure} (given : supply w.registry p.desk.disk = .ok source)
      (events : source.events = es ++ e :: rest)
      (stored : ∀ o ∈ Pool.outcomes (fun e => w.write e.1 e.2) p es, ∃ r, o.2 = .ok r)
      (failed : (w.write e.1 e.2 (Pool.settle (fun e => w.write e.1 e.2) p es)).result = .error f)
      (clears : e.1 ∉ es.map (·.1) → ∀ r, w.builder.build e.1 e.2 = .ok r →
        (p.desk.hazards e.1).Clears) : FailsAt w supply p es f

/-- What is left of a run that failed: its closed file, with the records of the events that were
stored and nothing else in it. -/
structure Aborted (w : Writer) (before : Progress) (es : List (Delivery Float)) (f : Failure)
    (path : Path) (rs : List (Event.Record Float)) (after : After Progress Summary) : Prop where
  raised : after.result = .error f
  file : after.state.eventFile = some path
  named : path.SpelledBy path.text
  closed : after.state.desk.session.stage = .closed
  built : es.mapM (fun e => w.builder.build e.1 e.2) = .ok rs
  shows : after.state.Shows w path (Run.byNumber rs)
  content : after.state.desk.disk.find path =
    .ok (.file (.run (Run.storedFile w.title rs)))
  counted : (Writer.abort after.state).result = .ok es.length
  told : after.entries.getLast? = some (.error ("Run aborted after " ++ toString es.length ++
    " events; partial file kept at " ++ path.text))
  /-- No other file is written. -/
  others : ∃ l, after.state.desk.disk.locate path = .ok l ∧
    after.state.desk.disk.SameBeside before.desk.disk l

variable {j : Job} {w : Writer} {processors : Option Int} {workers : Workers} {supply : Supply}
  {p before : Progress} {path : Path} {es : List (Delivery Float)} {f : Failure}

/-- Where the events stand that were tried, a run holds those that were stored. -/
theorem FailsAt.drains (h : FailsAt w supply p es f) (hholds : p.Holds w path [])
    (hworkers : j.workers = .ok workers) (hserial : workers.resolve processors = 0) :
    ∃ (tried : List (Delivery Float)) (rs : List (Event.Record Float)),
      (drainFrom supply processors j w p).result = .error f ∧
      (drainFrom supply processors j w p).state =
        Pool.settle (fun e => w.write e.1 e.2) p tried ∧
      es.mapM (fun e => w.builder.build e.1 e.2) = .ok rs ∧
      (Pool.settle (fun e => w.write e.1 e.2) p tried).Holds w path rs := by
  have hopen := hholds.desk.session.stage
  cases h with
  | supply raised =>
    simp only [drainFrom, raised]
    exact ⟨[], [], trivial, rfl, rfl, hholds⟩
  | @source source _ given stored raised =>
    obtain ⟨hs, hr⟩ := drainFrom_given hworkers hserial hopen given
    obtain ⟨hstate, hresult⟩ := Pool.inOrder_raised raised stored
    obtain ⟨hbuilt, hall, -⟩ := hholds.settle_stored stored
    exact ⟨source.events, _, hr.trans hresult, hs.trans hstate, hbuilt, hall⟩
  | @event source _ rest e _ given events stored failed clears =>
    obtain ⟨hs, hr⟩ := drainFrom_given hworkers hserial hopen given
    obtain ⟨hstate, hresult⟩ := Pool.inOrder_failed events stored failed
    obtain ⟨hbuilt, hall, hsame⟩ := hholds.settle_stored stored
    refine ⟨es ++ [e], _, hr.trans hresult, hs.trans hstate, hbuilt, ?_⟩
    rw [Pool.settle_append]
    refine (hall.write_failed ?_ failed).1
    rw [hsame, Writer.numbers_of_built hbuilt]
    exact clears

theorem giveUp_last {rs : List (Event.Record Float)} (h : p.Holds w path rs) (f : Failure) :
    (giveUp f p).state = (Writer.abort p).state ∧ (giveUp f p).result = .error f ∧
      (giveUp f p).entries.getLast? = some (.error ("Run aborted after " ++ toString rs.length ++
        " events; partial file kept at " ++ path.text)) := by
  obtain ⟨hresult, hstate, -⟩ := h.abort_closes
  have hpath : Writer.eventPath (Writer.abort p).state = path := by
    rw [hstate, Writer.eventPath, h.file]
    rfl
  refine ⟨(Act.bind_ok hresult).1, (Act.bind_ok hresult).2, Act.bind_last hresult ?_⟩
  rw [← hpath]
  rfl

/-- A run without threads that fails, for whatever reason, keeps the events that were stored before
and tells how many they are; it writes nothing else. -/
theorem failed_run_keeps_stored_events (hwriter : j.writer.result = .ok w)
    (hworkers : j.workers = .ok workers) (hserial : workers.resolve processors = 0)
    (hstart : (w.start before).result = .ok ())
    (hfails : FailsAt w supply (w.start before).state es f) :
    (∃ path rs, Aborted w before es f path rs (writeFrom supply processors j before)) ∧
    ∀ o d path, load o d path = .ok j → before = { desk := { disk := d } } → supply = j.source →
      (carryOut processors o path d).result = .error f ∧
        (carryOut processors o path d).state =
          (writeFrom supply processors j before).state.desk.disk := by
  obtain ⟨-, hnormal, -⟩ := writer_ok hwriter
  obtain ⟨path, h⟩ := Writer.start_holds hnormal hstart
  obtain ⟨file, l, hfile, hl, hbegun⟩ := Writer.start_beside hstart
  obtain rfl : file = path := Option.some.inj (hfile.symm.trans h.file)
  obtain ⟨tried, rs, hdrain, hsettled, hbuilt, hholds⟩ := hfails.drains h hworkers hserial
  obtain ⟨hstate, hresult, hlast⟩ := writeFrom_failed hwriter hstart hdrain hsettled
  obtain ⟨hgiven, hfailed, htold⟩ := giveUp_last hholds f
  obtain ⟨-, hclose, hclosed⟩ := hholds.abort_closes
  obtain ⟨-, hshows⟩ := hholds.abort
  have hlength : rs.length = es.length := (mapM_eq_ok.mp hbuilt).length_eq.symm
  have hfollows := Writer.follows_settle (w := w) h.desk.rests tried
  have hlocate := (hfollows.desk.locate file).trans hl
  have hafter := hstate.trans (hgiven.trans hclose)
  refine ⟨⟨file, rs, ?_⟩, ?_⟩
  · constructor
    · exact hresult.trans hfailed
    · rw [hafter]
      exact hholds.file
    · exact h.spelledBy
    · rw [hafter]
      exact hclosed.stage
    · exact hbuilt
    · rw [hstate, hgiven]
      exact hshows
    · rw [hafter]
      exact hclosed.disk
    · rw [hafter, ← hlength, ← hclosed.count]
      simp only [Writer.abort, hclosed.stage]
    · rw [← hlength]
      exact hlast _ htold
    · rw [hafter]
      refine ⟨l, (hholds.desk.rests.close.locate file).trans hlocate, ?_⟩
      exact (hholds.desk.rests.close_beside hlocate).trans
        ((Writer.settle_beside h.desk.rests hl tried).trans hbegun)
  · rintro o d path hload rfl rfl
    obtain ⟨hdisk, hsame⟩ := carryOut_state processors hload
    exact ⟨hsame.trans (hresult.trans hfailed), hdisk⟩

def planeJob : Job where
  path := "run.toml"
  text := ""
  config := {
    run := {}
    source := {}
    writer := {}
    field := { vector := [] }
    detectors := [⟨"plane", "sensor", [0.0, 0.0, 0.0], .angles [0.0, 0.0, 0.0], [16, 16],
      [18.4, 18.4], 50.0, 0.0, 0.0⟩] }
  workers := .ok (.count 0)

/-- The number of the last but one event has been used. -/
def repeatedSource : Source (Delivery Float) :=
  ⟨[Writer.planeEvent 9 7, Writer.planeEvent (-4) 8] ++
    Writer.planeEvent 9 1 :: [Writer.planeEvent 5 1], none⟩

theorem failed_run_keeps_stored_events_repeated : ∃ w path rs,
    planeJob.writer.result = .ok w ∧ rs.length = 2 ∧
      Aborted w Writer.emptyDesk [Writer.planeEvent 9 7, Writer.planeEvent (-4) 8]
        (.lifecycle (.alreadyWritten 9)) path rs
        (writeFrom (fun _ _ => .ok repeatedSource) none planeJob Writer.emptyDesk) := by
  have hall : planeJob.writer.result.toOption.any (fun w =>
      (w.start Writer.emptyDesk).result = .ok () ∧
      (∀ o ∈ Pool.outcomes (fun e => w.write e.1 e.2) (w.start Writer.emptyDesk).state
        [Writer.planeEvent 9 7, Writer.planeEvent (-4) 8], o.2.toOption.isSome) ∧
      (w.write 9 (Writer.planeEvent 9 1).2 (Pool.settle (fun e => w.write e.1 e.2)
        (w.start Writer.emptyDesk).state
        [Writer.planeEvent 9 7, Writer.planeEvent (-4) 8])).result.map (fun _ => ()) =
          .error (.lifecycle (.alreadyWritten 9))) = true := by
    decide +kernel
  obtain ⟨w, hwriter, hw⟩ := any_toOption.mp hall
  obtain ⟨hstart, hstored, hfailed⟩ := of_decide_eq_true hw
  have hfails : FailsAt w (fun _ _ => .ok repeatedSource) (w.start Writer.emptyDesk).state
      [Writer.planeEvent 9 7, Writer.planeEvent (-4) 8] (.lifecycle (.alreadyWritten 9)) := by
    refine .event rfl rfl ?_ ?_ ?_
    · intro o ho
      have hsome := hstored o ho
      cases hr : o.2 with
      | ok r => exact ⟨r, rfl⟩
      | error f =>
        rw [hr] at hsome
        contradiction
    · cases hr : (w.write 9 (Writer.planeEvent 9 1).2 (Pool.settle (fun e => w.write e.1 e.2)
          (w.start Writer.emptyDesk).state
          [Writer.planeEvent 9 7, Writer.planeEvent (-4) 8])).result with
      | ok r =>
        rw [hr] at hfailed
        contradiction
      | error f =>
        rw [hr] at hfailed
        exact hr.trans (congrArg Except.error (Except.error.inj hfailed))
    · intro hnew
      exact absurd (by decide) hnew
  have hzero : Workers.resolve none (.count 0) = 0 := rfl
  obtain ⟨⟨path, rs, haborted⟩, -⟩ :=
    failed_run_keeps_stored_events hwriter rfl hzero hstart hfails
  exact ⟨w, path, rs, hwriter, (mapM_eq_ok.mp haborted.built).length_eq.symm, haborted⟩

end PixelTelescope.Job
