import PixelTelescope.Proofs.Job.Supply
import PixelTelescope.Proofs.Table.Conserved
import PixelTelescope.Proofs.Table.Read
import PixelTelescope.Proofs.Writer.Ending

namespace PixelTelescope.Job

open Writer (Progress Summary)

variable {j : Job} {w : Writer} {processors : Option Int} {workers : Workers}
  {rows : List (Table.Row Float)}

def begun (w : Writer) (d : Disk (Run.Content Float)) : Progress :=
  (w.start { desk := { disk := d } }).state

/-- A run whose source is drained is finalized. -/
theorem carryOut_drained {o : Overrides} {d : Disk (Run.Content Float)} {path : String}
    (hload : load o d path = .ok j) (hwriter : j.writer.result = .ok w)
    (hstart : (w.start { desk := { disk := d } }).result = .ok ()) {n : Nat}
    (hdrain : (j.drain processors w (begun w d)).result = .ok n) :
    (carryOut processors o path d).state =
        (w.finalize (j.drain processors w (begun w d)).state).state.desk.disk ∧
      (carryOut processors o path d).result =
        (w.finalize (j.drain processors w (begun w d)).state).result := by
  unfold begun at hdrain ⊢
  simp only [carryOut, hload, write, bind, Act.andThen, Act.log, Act.ofResult, Act.attempt,
    hwriter, hstart, hdrain]
  exact ⟨trivial, trivial⟩

/-- The events of sound rows are delivered one for each number, with nothing between. -/
theorem events_deliver {names : List String} (hrows : ∀ r ∈ rows, r.Sound names) :
    (Table.events rows).failure = none ∧
      (Table.events rows).events.map (·.1) = Table.eventNumbers rows ∧
      ∀ e ∈ (Table.events rows).events, (∀ m ∈ e.2, m.detector ∈ names) ∧
        List.Forall₂ (fun r d => r.detector = some d.1.detector ∧ r.Gives d.2)
          (Table.byDetector (rows.filter (·.event = e.1))) (Event.deliveries e.2) := by
  have hsound (n : Int) : ∀ r ∈ rows.filter (·.event = n), r.Sound names :=
    fun r hr => hrows r (List.mem_filter.mp hr).1
  have hmessages : ∀ n ∈ Table.eventNumbers rows,
      ∃ list, Table.messages (rows.filter (·.event = n)) = .ok list :=
    fun n _ => (Table.messages_ok (hsound n)).imp fun _ h => h.1
  obtain ⟨hfailure, hnumbers, hevents⟩ := Table.eventsOf_ok hmessages
  refine ⟨hfailure, hnumbers, ?_⟩
  intro e he
  obtain ⟨list, hlist, hnamed, hdelivered⟩ := Table.messages_ok (hsound e.1)
  obtain rfl : list = e.2 := Except.ok.inj (hlist.symm.trans (hevents e he))
  exact ⟨hnamed, hdelivered⟩

theorem fits_of_mem_eventNumbers (hevents : ∀ r ∈ rows, Bounds.fits64 r.event = true) {n : Int}
    (hn : n ∈ Table.eventNumbers rows) : Run.Attribute.fits n = true := by
  obtain ⟨a, ha, b, hb, hle, hle'⟩ := Table.mem_eventNumbers.mp hn
  obtain ⟨hlow, -⟩ := Table.fits64_iff.mp (hevents a ha)
  obtain ⟨-, hhigh⟩ := Table.fits64_iff.mp (hevents b hb)
  have hleast : Bounds.least64 ≤ n := Int.le_trans hlow hle
  have hwords : n < Bounds.words := Int.lt_of_le_of_lt (Int.le_trans hle' hhigh) (by decide)
  rw [Run.Attribute.fits, Bool.and_eq_true]
  exact ⟨decide_eq_true hleast, decide_eq_true hwords⟩

/-- A configuration under which every sound row is stored. -/
structure Ready (w : Writer) : Prop where
  resolved : ∃ request : Assignment.Request, request.detectors = w.registry.names ∧
    request.resolve = .ok w.assignment
  ids : ∀ d ∈ w.registry.names, ∀ id, w.assignment.sensorIdFor d = .ok id →
    Event.fitsColumn id = true
  run : Run.Attribute.fits w.builder.run = true
  eventType : Run.Attribute.fits w.builder.eventType = true

/-- Every event of sound rows becomes a record that conserves them. -/
theorem Ready.builds (h : Ready w) (hrows : ∀ r ∈ rows, r.Sound w.registry.names)
    (hevents : ∀ r ∈ rows, Bounds.fits64 r.event = true) :
    ∀ e ∈ (Table.events rows).events, ∃ r, w.builder.build e.1 e.2 = .ok r ∧ Run.Storable r ∧
      Table.Conserves w.builder (rows.filter (·.event = e.1)) r := by
  intro e he
  obtain ⟨-, hnumbers, hdeliver⟩ := events_deliver hrows
  obtain ⟨hnamed, hdelivered⟩ := hdeliver e he
  obtain ⟨request, hdetectors, hresolve⟩ := h.resolved
  have hwell := Assignment.Request.resolve_wellNamed hresolve
  have hplaces : ∀ m ∈ e.2, w.builder.assignment.Places m.detector :=
    fun m hm => Assignment.Request.resolve_places hresolve _ (hdetectors ▸ hnamed m hm)
  have hplain : ∀ d ∈ Event.deliveries e.2, d.2.Plain := by
    intro d hd
    obtain ⟨r, -, -, hgives⟩ := exists_of_mem_right hdelivered hd
    exact hgives.plain
  obtain ⟨r, hbuild⟩ := Event.Builder.build_plain e.1 hplaces (fun m hm => h.ids _ (hnamed m hm))
    hplain
  have hfits := fits_of_mem_eventNumbers hevents (hnumbers ▸ List.mem_map_of_mem he)
  exact ⟨r, hbuild, Run.storable_of_build hwell h.run h.eventType hfits hbuild,
    Table.build_conserves hwell.distinct hbuild hdelivered⟩

theorem Ready.marks (h : Ready w) (hrows : ∀ r ∈ rows, r.Sound w.registry.names)
    (hevents : ∀ r ∈ rows, Bounds.fits64 r.event = true) :
    w.Marks (fun _ => {}) (fun _ => false) (Table.events rows).events := by
  refine ⟨by simp, fun e he _ => ?_⟩
  obtain ⟨r, hbuild, hs, -⟩ := h.builds hrows hevents e he
  exact ⟨r, hbuild, Run.Session.storeFault_of_storable hs⟩

/-- A progress bar or none, the rows are drained into the run. -/
theorem drain_eq {p : Progress} (hformat : j.config.source.format = .table)
    (hread : Table.read {} p.desk.disk (j.config.source.inputPath.getD "") = .ok rows)
    (hworkers : j.workers = .ok workers) (hserial : workers.resolve processors = 0) :
    j.drain processors w p = w.process processors (.ok workers) false (Table.events rows) p := by
  have hsource : j.source w.registry p.desk.disk = .ok (Table.events rows) := by
    simp only [source, hformat, hread]
    rfl
  simp only [drain, hsource, hworkers]
  cases j.config.run.progress with
  | true => exact Writer.process_serial_bar hserial w _ p
  | false => rfl

/-- The rows of a table, all sound, are drained into the run. -/
theorem Ready.drains (h : Ready w) {d : Disk (Run.Content Float)} {file : Path}
    (hopen : (begun w d).Holds w file []) (hformat : j.config.source.format = .table)
    (hread : Table.read {} (begun w d).desk.disk (j.config.source.inputPath.getD "") = .ok rows)
    (hworkers : j.workers = .ok workers) (hserial : workers.resolve processors = 0)
    (hrows : ∀ r ∈ rows, r.Sound w.registry.names)
    (hevents : ∀ r ∈ rows, Bounds.fits64 r.event = true) :
    (j.drain processors w (begun w d)).result = .ok (Table.events rows).events.length ∧
      (j.drain processors w (begun w d)).state.Holds w file
        (w.records (fun _ => false) (Table.events rows).events) ∧
      (j.drain processors w (begun w d)).state.Follows (begun w d) file := by
  obtain ⟨hfailure, hnumbers, -⟩ := events_deliver hrows
  have hdistinct : ((Table.events rows).events.map (·.1)).Nodup := by
    rw [hnumbers]
    exact (Table.eventNumbers_increasing rows).imp Int.ne_of_lt
  have hmarks : w.Marks (begun w d).desk.hazards (fun _ => false) (Table.events rows).events := by
    rw [begun, Writer.start_hazards]
    exact h.marks hrows hevents
  obtain ⟨hresult, hsettled⟩ :=
    hopen.serial_settles (Table.events rows) hserial hfailure hdistinct hmarks
  obtain ⟨-, hholds⟩ := hopen.serial (Table.events rows) hserial hfailure hdistinct hmarks
  rw [drain_eq hformat hread hworkers hserial]
  refine ⟨hresult, hholds, ?_⟩
  rw [hsettled]
  exact Writer.follows_settle hopen.desk.rests _

/-- A run file that holds the rows of a table: one record for every number from the least to the
greatest, and in it the rows of that number. -/
structure Conserved (w : Writer) (rows : List (Table.Row Float)) (file : Path)
    (after : After (Disk (Run.Content Float)) Summary) (rs : List (Event.Record Float)) : Prop where
  spelled : file.SpelledBy file.text
  reads : ∀ name, file.SpelledBy name → ∃ f header, Run.readRun after.state name = .ok f ∧
    f.records = .ok rs ∧ f.header = .ok header ∧ header.count = rs.length
  increasing : rs.Pairwise fun a b => a.number < b.number
  complete : ∀ n, n ∈ rs.map (·.number) ↔ ∃ a ∈ rows, ∃ b ∈ rows, a.event ≤ n ∧ n ≤ b.event
  conserves : ∀ r ∈ rs, Table.Conserves w.builder (rows.filter (·.event = r.number)) r
  tells : ∀ s, after.result = .ok s → s.count = rs.length ∧ s.eventFile = file

/-- A file of the events of sound rows conserves them. -/
theorem Ready.conserved (h : Ready w) (hrows : ∀ r ∈ rows, r.Sound w.registry.names)
    (hevents : ∀ r ∈ rows, Bounds.fits64 r.event = true) {file : Path} (hnormal : file.Normal)
    {after : After (Disk (Run.Content Float)) Summary} {t : Run.Title}
    {stored : List (Event.Record Float)}
    (hstored : stored = w.records (fun _ => false) (Table.events rows).events)
    (hfind : after.state.find file = .ok (.file (.run (Run.storedFile t stored))))
    (htells : ∀ s, after.result = .ok s → s.count = stored.length ∧ s.eventFile = file) :
    Conserved w rows file after (Run.byNumber stored) := by
  have hnumbers : stored.map (·.number) = Table.eventNumbers rows := by
    rw [hstored, Writer.numbers_records (h.marks hrows hevents)]
    exact (events_deliver hrows).2.1
  have hdistinct : (stored.map (·.number)).Nodup :=
    hnumbers ▸ (Table.eventNumbers_increasing rows).imp Int.ne_of_lt
  have hbuilt : ∀ r ∈ stored, Run.Storable r ∧
      Table.Conserves w.builder (rows.filter (·.event = r.number)) r := by
    intro r hr
    obtain ⟨e, he, -, hb⟩ := Writer.mem_records.mp (hstored ▸ hr)
    obtain ⟨q, hq, hs, hconserves⟩ := h.builds hrows hevents e he
    obtain rfl : r = q := Except.ok.inj (hb.symm.trans hq)
    rw [(Run.build_ok hb).2.1]
    exact ⟨hs, hconserves⟩
  have hperm := Run.byNumber_perm stored
  refine ⟨Disk.spelledBy_of_find hnormal hfind, ?_, Run.byNumber_pairwise hdistinct, ?_, ?_, ?_⟩
  · intro name hname
    exact ⟨_, _, Run.readRun_of_find hfind hname,
      Run.records_storedFile fun r hr => (hbuilt r hr).1, Run.header_storedFile t stored,
      congrArg Int.ofNat hperm.length_eq.symm⟩
  · intro n
    rw [(hperm.map _).mem_iff, hnumbers]
    exact Table.mem_eventNumbers
  · exact fun r hr => (hbuilt r (hperm.mem_iff.mp hr)).2
  · rw [hperm.length_eq]
    exact htells

/-- The lines of a table are conserved from end to end: each is a row that stands once in the run
file, in the record of its event, as its detector is assigned, and nothing else stands there. -/
theorem table_run_conserves_rows {o : Overrides} {d : Disk (Run.Content Float)} {path : String}
    (hload : load o d path = .ok j) (hformat : j.config.source.format = .table)
    (hworkers : j.workers = .ok workers) (hserial : workers.resolve processors = 0)
    (hwriter : j.writer.result = .ok w)
    (hids : ∀ name ∈ w.registry.names, ∀ id, w.assignment.sensorIdFor name = .ok id →
      Event.fitsColumn id = true)
    (hrun : Run.Attribute.fits w.run = true)
    (htype : Run.Attribute.fits w.settings.eventType = true)
    (hstart : (w.start { desk := { disk := d } }).result = .ok ())
    (hread : Table.read {} (begun w d).desk.disk (j.config.source.inputPath.getD "") = .ok rows)
    (hrows : ∀ r ∈ rows, r.Sound w.registry.names)
    (hgeometry : ∀ file q, (begun w d).eventFile = some file → (begun w d).geometryFile = some q →
      (begun w d).desk.disk.locate q ≠ (begun w d).desk.disk.locate file) :
    ∃ text sheet typed file rs,
      (begun w d).desk.disk.find (Path.ofText (j.config.source.inputPath.getD "")) =
        .ok (.file (.text text)) ∧
      Table.Sheet.ofText text = .ok sheet ∧ sheet.Lists {} typed rows ∧
      (begun w d).eventFile = some file ∧
      Conserved w rows file (carryOut processors o path d) rs ∧
      ((begun w d).geometryFile = none →
        (carryOut processors o path d).result = .ok ⟨rs.length, file, none⟩) := by
  obtain ⟨text, sheet, typed, htext, hsheet, hlists⟩ := Table.read_lists hread
  obtain ⟨hresolve, hnormal, hsame, hsameType⟩ := writer_ok hwriter
  have hready : Ready w := ⟨⟨_, rfl, hresolve⟩, hids, hsame ▸ hrun, hsameType ▸ htype⟩
  obtain ⟨file, h⟩ : ∃ file, (begun w d).Holds w file [] := Writer.start_holds hnormal hstart
  obtain ⟨hdrain, hholds, hfollows⟩ := hready.drains h hformat hread hworkers hserial
    hrows hlists.fits
  obtain ⟨p, hp, hclosed, hstate, hends⟩ := hholds.finalize
  have hgeometryFile := (hp.trans hfollows).geometryFile
  have hfar : ∀ q, p.geometryFile = some q → p.desk.disk.locate q ≠ p.desk.disk.locate file := by
    have hlocate := (hp.trans hfollows).desk.locate
    intro q hq
    rw [hlocate, hlocate]
    exact hgeometry file q h.file (hgeometryFile ▸ hq)
  obtain ⟨hwritten, htold⟩ := carryOut_drained hload hwriter hstart hdrain
  rw [hstate] at hwritten
  rw [hends] at htold
  have hkept := hwritten ▸ Writer.exportGeometry_keeps (w := w) hclosed.disk hfar
  refine ⟨text, sheet, typed, file, _, htext, hsheet, hlists, h.file,
    hready.conserved hrows hlists.fits h.desk.normal rfl hkept ?_, ?_⟩
  · intro s hs
    obtain ⟨u, -, rfl⟩ := map_eq_ok.mp (htold.symm.trans hs)
    exact ⟨rfl, rfl⟩
  · intro hnone
    have hoff := hgeometryFile.trans hnone
    have hdone : (w.exportGeometry p).result = .ok () := by simp only [Writer.exportGeometry, hoff]
    rw [htold, hdone, hoff, (Run.byNumber_perm _).length_eq]
    rfl

/-- A working directory with a configuration and its table, in which there is an event without hits
between two others. -/
def gapDisk : Disk (Run.Content Float) :=
  ⟨["home"], [(["home"], .directory),
    (["home", "run.toml"], .file (.text (
      "run.workers = 0\nio.input_format = 'table'\nio.input_path = 'hits.csv'\n" ++
      "writer.geometry_file = ''\n" ++
      "[[detectors]]\nname = 'plane'\nposition = [0, 0, 0]\n"))),
    (["home", "hits.csv"], .file (.text (
      "event,detector,column,row,signal,time,mc_track,mc_pdg\n" ++
      "5,plane,7,3,2,0,1,11\n" ++
      "3,plane,8,4,1,0,-1,0\n")))]⟩

/-- A table whose rows stand before and behind an event without hits. -/
theorem table_run_conserves_rows_gap :
    ∃ w rows file rs, (∃ sheet typed : Table.Sheet, sheet.Lists {} typed rows) ∧
      rows.map (fun r => (r.event, r.detector, r.column, r.row)) =
        [(5, some "plane", 7, 3), (3, some "plane", 8, 4)] ∧
      Conserved w rows file (carryOut none {} "run.toml" gapDisk) rs ∧
      (carryOut none {} "run.toml" gapDisk).result = .ok ⟨rs.length, file, none⟩ := by
  have hall : (load {} gapDisk "run.toml").toOption.any (fun j =>
      j.config.source.format = .table ∧
      j.workers.toOption.any (fun workers => workers.resolve none = 0) ∧
      j.writer.result.toOption.any fun w =>
        (∀ name ∈ w.registry.names, (w.assignment.sensorIdFor name).toOption.all Event.fitsColumn) ∧
        Run.Attribute.fits w.run ∧ Run.Attribute.fits w.settings.eventType ∧
        (w.start { desk := { disk := gapDisk } }).result.toOption.any (fun _ => true) ∧
        (begun w gapDisk).geometryFile = none ∧
        (Table.read {} (begun w gapDisk).desk.disk (j.config.source.inputPath.getD "")).toOption.any
          fun rows => rows.map (fun r => (r.event, r.detector, r.column, r.row)) =
              [(5, some "plane", 7, 3), (3, some "plane", 8, 4)] ∧
            ∀ r ∈ rows, r.Sound w.registry.names) = true := by
    decide +kernel
  obtain ⟨j, hload, hj⟩ := any_toOption.mp hall
  obtain ⟨hformat, hworkers, hj⟩ := of_decide_eq_true hj
  obtain ⟨workers, hworkers, hserial⟩ := any_toOption.mp hworkers
  obtain ⟨w, hwriter, hw⟩ := any_toOption.mp hj
  obtain ⟨hids, hrun, htype, hstart, hoff, hw⟩ := of_decide_eq_true hw
  obtain ⟨rows, hread, hrows⟩ := any_toOption.mp hw
  obtain ⟨hcells, hsound⟩ := of_decide_eq_true hrows
  have hsame : ∀ name ∈ w.registry.names, ∀ id, w.assignment.sensorIdFor name = .ok id →
      Event.fitsColumn id = true := by
    intro name hname id hid
    simpa [hid, Except.toOption] using hids name hname
  have hnone : workers.resolve none = 0 := of_decide_eq_true hserial
  obtain ⟨_, hbegun, -⟩ := any_toOption.mp hstart
  obtain ⟨text, sheet, typed, file, rs, -, -, hlists, -, hconserved, hresult⟩ :=
    table_run_conserves_rows hload hformat hworkers hnone hwriter hsame hrun htype hbegun hread
      hsound (by simp [hoff])
  exact ⟨w, rows, file, rs, ⟨sheet, typed, hlists⟩, hcells, hconserved, hresult hoff⟩

end PixelTelescope.Job
