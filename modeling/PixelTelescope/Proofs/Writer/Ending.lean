import PixelTelescope.Proofs.Pool.Batches
import PixelTelescope.Proofs.Run.Frame
import PixelTelescope.Proofs.Writer.Threads

namespace PixelTelescope.Writer

section Bar

variable {w : Writer} {p : Progress} {processors : Option Int} {workers : Workers}

/-- A run without threads does the same with a progress bar as without one. -/
theorem process_serial_bar (hworkers : workers.resolve processors = 0) (w : Writer)
    (source : Source (Delivery Float)) (p : Progress) :
    w.process processors (.ok workers) true source p =
      w.process processors (.ok workers) false source p := by
  simp only [process, bind, Act.andThen, Act.ofResult, Pool.process_serial hworkers]

/-- A progress bar changes nothing where events are handled in the calling thread. With threads no
run comes to a count under it, whatever the events are and however the threads take turns: each
ends in the failure of the bar, with some of the events handled. -/
theorem bar_ends_threaded_run (source : Source (Delivery Float))
    (hopen : p.desk.session.stage = .open) :
    (workers.resolve processors = 0 →
      w.process processors (.ok workers) true source p =
        w.process processors (.ok workers) false source p) ∧
    ∀ threads, 0 < threads → workers.resolve processors = threads →
      Pool.OnEverySchedule threads true (fun e => w.write e.1 e.2) source p
        (fun result q => result = .error .progressBar ∧
          ∃ es : List (Delivery Float), es.Subperm source.events ∧
            q = Pool.settle (fun e => w.write e.1 e.2) p es) ∧
      (w.process processors (.ok workers) true source p).result = .error .progressBar ∧
      (w.process processors (.ok workers) true source p).state =
        Pool.settle (fun e => w.write e.1 e.2) p (source.events.take (Pool.window threads)) := by
  refine ⟨fun hworkers => process_serial_bar hworkers w source p, ?_⟩
  intro threads hthreads hworkers
  obtain ⟨hresult, hstate⟩ := Pool.threaded_bar threads (fun e => w.write e.1 e.2) source p
  obtain ⟨hs, hr⟩ := process_eq (w := w) hopen processors workers true source
  rw [Pool.process_threaded hthreads hworkers] at hs hr
  refine ⟨Pool.onEverySchedule_bar hthreads ?_, hr.trans hresult, hs.trans hstate⟩
  intro es hsub
  exact ⟨es, hsub, rfl⟩

/-- One event on one thread, with a bar. -/
theorem bar_ends_threaded_run_one :
    (planeWriter.start emptyDesk).state.desk.session.stage = .open ∧
      Pool.OnEverySchedule 1 true (fun e => planeWriter.write e.1 e.2) ⟨[planeEvent 4 7], none⟩
        (planeWriter.start emptyDesk).state
        (fun result q => result = .error .progressBar ∧
          ∃ es : List (Delivery Float), es.Subperm [planeEvent 4 7] ∧
            q = Pool.settle (fun e => planeWriter.write e.1 e.2)
              (planeWriter.start emptyDesk).state es) := by
  have hopen : (planeWriter.start emptyDesk).state.desk.session.stage = .open := rfl
  have hworkers : Workers.resolve none (.count 1) = 1 := rfl
  obtain ⟨-, hthreaded⟩ :=
    bar_ends_threaded_run (w := planeWriter) ⟨[planeEvent 4 7], none⟩ hopen
  exact ⟨hopen, (hthreaded 1 (by decide) hworkers).1⟩

/-- The same event is counted without a bar and ends the run with one. -/
theorem bar_fails_what_succeeds :
    (planeWriter.process none (.ok (.count 1)) false ⟨[planeEvent 4 7], none⟩
        (planeWriter.start emptyDesk).state).result = .ok 1 ∧
      (planeWriter.process none (.ok (.count 1)) true ⟨[planeEvent 4 7], none⟩
        (planeWriter.start emptyDesk).state).result = .error .progressBar :=
  ⟨rfl, rfl⟩

end Bar

variable {w : Writer} {p : Progress} {path : Path} {rs : List (Event.Record Float)}

structure Progress.Follows (p' p : Progress) (path : Path) : Prop where
  desk : p'.desk.Follows p.desk path
  eventFile : p'.eventFile = p.eventFile
  geometryFile : p'.geometryFile = p.geometryFile

theorem Progress.Follows.trans {p'' p' p : Progress} (h : p''.Follows p' path)
    (h' : p'.Follows p path) : p''.Follows p path :=
  ⟨h.desk.trans h'.desk, h.eventFile.trans h'.eventFile, h.geometryFile.trans h'.geometryFile⟩

theorem follows_write (h : p.desk.Rests path) (e : Delivery Float) :
    (w.write e.1 e.2 p).state.Follows p path := by
  cases hb : w.builder.build e.1 e.2 with
  | error f =>
    rw [(write_unbuilt hb).1]
    exact ⟨h.refl, rfl, rfl⟩
  | ok r =>
    rw [(write_built hb).1]
    exact ⟨h.put r, rfl, rfl⟩

theorem follows_settle (h : p.desk.Rests path) (es : List (Delivery Float)) :
    (Pool.settle (fun e => w.write e.1 e.2) p es).Follows p path := by
  induction es generalizing p with
  | nil => exact ⟨h.refl, rfl, rfl⟩
  | cons e rest ih =>
    have hstep := follows_write (w := w) h e
    exact (ih hstep.desk.rests).trans hstep

theorem createOutputFile_hazards (w : Writer) (name extension : String) (p : Progress) :
    (w.createOutputFile name extension p).state.desk.hazards = p.desk.hazards := by
  unfold createOutputFile
  split
  · rfl
  · split <;> rfl

theorem placeGeometry_hazards (w : Writer) (p : Progress) :
    (w.placeGeometry p).state.desk.hazards = p.desk.hazards := by
  unfold placeGeometry
  cases w.settings.geometryFile.filter (· ≠ "") with
  | none => rfl
  | some name =>
    dsimp only
    refine Act.bind_keeps (g := fun p : Progress => p.desk.hazards)
      (createOutputFile_hazards w name "xml") (fun path p => ?_) p
    rfl

/-- A start changes nothing in what goes wrong later. -/
theorem start_hazards (w : Writer) (p : Progress) :
    (w.start p).state.desk.hazards = p.desk.hazards := by
  refine Act.bind_keeps (g := fun p : Progress => p.desk.hazards) (placeGeometry_hazards w)
    (fun _ p => ?_) p
  refine Act.bind_keeps (g := fun p : Progress => p.desk.hazards)
    (createOutputFile_hazards w w.settings.fileName "h5") (fun path p => ?_) p
  refine Act.bind_keeps (g := fun p : Progress => p.desk.hazards) (fun _ => ?_) (fun _ p => ?_) p
  · rfl
  · refine Act.bind_keeps (g := fun p : Progress => p.desk.hazards) (fun _ => ?_)
      (fun _ p => ?_) p
    · rfl
    · rfl

theorem exporter_write_ok {e : Gear.Exporter} {d d' : Disk (Run.Content Float)} {q : Path}
    {registry : Geometry.Registry Float} (h : (e.write d q registry).result = .ok d') :
    ∃ text, d.write q (.text text) = .ok d' := by
  obtain ⟨document, -, h⟩ := bind_eq_ok.mp h
  obtain ⟨text, -, h⟩ := bind_eq_ok.mp h
  refine ⟨text, ?_⟩
  unfold Gear.putText at h
  split at h
  · rename_i hw
    rw [hw, Except.ok.inj h]
  · contradiction
  · contradiction

/-- The geometry goes to its own file. -/
theorem exportGeometry_keeps {f : Run.File Float}
    (hfind : p.desk.disk.find path = .ok (.file (.run f)))
    (hne : ∀ q, p.geometryFile = some q → p.desk.disk.locate q ≠ p.desk.disk.locate path) :
    (w.exportGeometry p).state.desk.disk.find path = .ok (.file (.run f)) := by
  unfold exportGeometry
  split
  · exact hfind
  · rename_i q hq
    dsimp only
    split
    · rename_i disk hdisk
      obtain ⟨text, hw⟩ := exporter_write_ok hdisk
      exact Disk.find_write_of_ne hw hfind (hne q hq)
    · exact hfind

theorem exportGeometry_session (w : Writer) (p : Progress) :
    (w.exportGeometry p).state.desk.session = p.desk.session := by
  unfold exportGeometry
  split
  · rfl
  · dsimp only
    split <;> rfl

/-- A run that ends keeps its events and then writes its geometry. -/
theorem Progress.Holds.finalize (h : p.Holds w path rs) :
    ∃ p', p'.Follows p path ∧ p'.desk.Closed w.title path rs ∧
      (w.finalize p).state = (w.exportGeometry p').state ∧
      (w.finalize p).result =
        (w.exportGeometry p').result.map fun _ => ⟨rs.length, path, p'.geometryFile⟩ := by
  obtain ⟨hresult, hclosed⟩ := h.desk.close
  have hpath : eventPath { p with desk := p.desk.close.state } = path := by
    rw [eventPath, h.file]
    rfl
  refine ⟨{ p with desk := p.desk.close.state }, ⟨h.desk.rests.close, rfl, rfl⟩, hclosed, ?_⟩
  simp only [Writer.finalize, bind, Act.andThen, onDesk, hresult, Act.log, hpath]
  cases hexport : (w.exportGeometry { p with desk := p.desk.close.state }).result with
  | ok u => exact ⟨rfl, rfl⟩
  | error f => exact ⟨rfl, rfl⟩

/-- A run that has ended shows the events that it held, if its geometry went elsewhere. -/
theorem Progress.Holds.finalize_shows (h : p.Holds w path rs)
    (hne : ∀ q, p.geometryFile = some q → p.desk.disk.locate q ≠ p.desk.disk.locate path) :
    (w.finalize p).state.Shows w path (Run.byNumber rs) := by
  obtain ⟨p', hfollows, hclosed, hstate, -⟩ := h.finalize
  rw [hstate]
  refine shows_of_find ?_ (exportGeometry_keeps hclosed.disk ?_) hclosed.distinct hclosed.storable
  · rw [exportGeometry_session]
    exact hclosed.count
  · intro q hq
    rw [hfollows.desk.locate, hfollows.desk.locate]
    exact hne q (hfollows.geometryFile ▸ hq)

theorem Progress.Holds.finalize_tells (h : p.Holds w path rs) {summary : Summary}
    (hfinal : (w.finalize p).result = .ok summary) :
    summary = ⟨rs.length, path, p.geometryFile⟩ := by
  obtain ⟨p', hfollows, -, -, hresult⟩ := h.finalize
  obtain ⟨_, -, rfl⟩ := map_eq_ok.mp (hresult.symm.trans hfinal)
  rw [hfollows.geometryFile]

end PixelTelescope.Writer
