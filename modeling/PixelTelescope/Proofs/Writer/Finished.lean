import PixelTelescope.Proofs.Writer.Ending
import PixelTelescope.Proofs.Writer.Kept

namespace PixelTelescope.Writer

variable {w : Writer} {p : Progress} {path : Path} {rs : List (Event.Record Float)}
  {settings : Config.WriterSection} {registry : Geometry.Registry Float} {outputDir : String}
  {run : Int} {configText : Option String} {before : Progress} {es : List (Delivery Float)}
  {summary : Summary}

/-- Geometry that goes to the place of the run file stands there instead of it. -/
theorem exportGeometry_replaces {q : Path} (hq : p.geometryFile = some q)
    (hsame : p.desk.disk.locate q = p.desk.disk.locate path)
    (hok : (w.exportGeometry p).result = .ok ()) {name : String} (hname : path.SpelledBy name) :
    Run.readRun (w.exportGeometry p).state.desk.disk name = .error (.file .foreign) := by
  unfold exportGeometry at hok ⊢
  simp only [hq] at hok ⊢
  split at hok
  · rename_i disk hdisk
    obtain ⟨text, hw⟩ := exporter_write_ok hdisk
    have hfind := Disk.find_write_of_eq hw hsame
    simp only [setDisk, Run.readRun, Disk.read_of_find hfind hname]
  · contradiction

/-- What a run that has ended tells of itself is what its file tells, unless the geometry goes to
the place of the run file: then there is no run to read there any more. -/
theorem finished_run_is_kept_beside_geometry
    (hcreate : (create settings registry outputDir run configText).result = .ok w)
    (hstart : (w.start before).result = .ok ())
    (hstored : ∀ o ∈ Pool.outcomes (fun e => w.write e.1 e.2) (w.start before).state es,
      ∃ r, o.2 = .ok r)
    (hfinal : (w.finalize (Pool.settle (fun e => w.write e.1 e.2) (w.start before).state es)).result
      = .ok summary) :
    ∃ rs, es.mapM (fun e => w.builder.build e.1 e.2) = .ok rs ∧
      (Pool.outcomes (fun e => w.write e.1 e.2) (w.start before).state es).map (·.2) =
        rs.map .ok ∧
      summary.count = rs.length ∧ summary.eventFile.SpelledBy summary.eventFile.text ∧
      ((∀ q, summary.geometryFile = some q → (w.start before).state.desk.disk.locate q ≠
          (w.start before).state.desk.disk.locate summary.eventFile) →
        (w.finalize (Pool.settle (fun e => w.write e.1 e.2) (w.start before).state es)).state.Shows
          w summary.eventFile (Run.byNumber rs)) ∧
      ∀ q, summary.geometryFile = some q → (w.start before).state.desk.disk.locate q =
          (w.start before).state.desk.disk.locate summary.eventFile →
        ∀ name, summary.eventFile.SpelledBy name → Run.readRun
          (w.finalize (Pool.settle (fun e => w.write e.1 e.2)
            (w.start before).state es)).state.desk.disk name = .error (.file .foreign) := by
  obtain ⟨path, h⟩ := start_holds (create_outputDir hcreate) hstart
  obtain ⟨hbuilt, hholds, -⟩ := h.settle_stored hstored
  obtain ⟨p, hfollows, hclosed, hstate, hresult⟩ := hholds.finalize
  obtain ⟨_, hexport, rfl⟩ := map_eq_ok.mp (hresult.symm.trans hfinal)
  have hlocate (q : Path) : p.desk.disk.locate q = (w.start before).state.desk.disk.locate q :=
    (hfollows.desk.locate q).trans ((follows_settle h.desk.rests es).desk.locate q)
  refine ⟨_, hbuilt, results_returned hstored, rfl, h.spelledBy, ?_, ?_⟩
  · intro hne
    rw [hstate]
    refine shows_of_find ?_ (exportGeometry_keeps hclosed.disk ?_) hclosed.distinct hclosed.storable
    · rw [exportGeometry_session]
      exact hclosed.count
    · intro q hq
      rw [hlocate, hlocate]
      exact hne q hq
  · intro q hq hsame name hname
    rw [hstate]
    rw [← hlocate, ← hlocate] at hsame
    exact exportGeometry_replaces hq hsame hexport hname

def namedWriter (fileName geometryFile : String) : Writer :=
  { planeWriter with settings :=
      { planeSettings with fileName := fileName, geometryFile := some geometryFile } }

def twoWritten (w : Writer) : Progress :=
  Pool.settle (fun e => w.write e.1 e.2) (w.start emptyDesk).state
    [planeEvent 9 7, planeEvent (-4) 8]

def twoStored (w : Writer) : Bool :=
  (Pool.outcomes (fun e => w.write e.1 e.2) (w.start emptyDesk).state
    [planeEvent 9 7, planeEvent (-4) 8]).all fun o => o.2.toOption.any fun _ => true

theorem stored_of_twoStored (h : twoStored w = true) :
    ∀ o ∈ Pool.outcomes (fun e => w.write e.1 e.2) (w.start emptyDesk).state
      [planeEvent 9 7, planeEvent (-4) 8], ∃ r, o.2 = .ok r := by
  intro o ho
  obtain ⟨r, hr, -⟩ := any_toOption.mp (List.all_eq_true.mp h o ho)
  exact ⟨r, hr⟩

theorem finished_run_is_kept_beside_geometry_apart : ∃ summary rs,
    ((namedWriter "run" "telescope").finalize (twoWritten (namedWriter "run" "telescope"))).result =
      .ok summary ∧
    summary.geometryFile = some (.ofText "out/telescope.xml") ∧ summary.count = 2 ∧
    ((namedWriter "run" "telescope").finalize
      (twoWritten (namedWriter "run" "telescope"))).state.Shows (namedWriter "run" "telescope")
        (.ofText "out/run.h5") rs := by
  have hcreate : (create (namedWriter "run" "telescope").settings planeRegistry "out" 5
      none).result = .ok (namedWriter "run" "telescope") := rfl
  have hstart : ((namedWriter "run" "telescope").start emptyDesk).result = .ok () := rfl
  have hfinal : ((namedWriter "run" "telescope").finalize
      (twoWritten (namedWriter "run" "telescope"))).result =
        .ok ⟨2, .ofText "out/run.h5", some (.ofText "out/telescope.xml")⟩ := by
    decide +kernel
  have hstored := stored_of_twoStored (w := namedWriter "run" "telescope") (by decide +kernel)
  obtain ⟨rs, -, -, -, -, hshows, -⟩ :=
    finished_run_is_kept_beside_geometry hcreate hstart hstored hfinal
  refine ⟨_, _, hfinal, rfl, rfl, hshows ?_⟩
  intro q hq
  obtain rfl := Option.some.inj hq
  decide +kernel

/-- With one name for the run file and the geometry, a run of two events ends and is lost. -/
theorem geometry_replaces_run :
    (create (namedWriter "run.h5" "run.h5").settings planeRegistry "out" 5 none).result =
      .ok (namedWriter "run.h5" "run.h5") ∧
    ((namedWriter "run.h5" "run.h5").start emptyDesk).result = .ok () ∧
    (∀ o ∈ Pool.outcomes (fun e => (namedWriter "run.h5" "run.h5").write e.1 e.2)
      ((namedWriter "run.h5" "run.h5").start emptyDesk).state
      [planeEvent 9 7, planeEvent (-4) 8], ∃ r, o.2 = .ok r) ∧
    ((namedWriter "run.h5" "run.h5").finalize (twoWritten (namedWriter "run.h5" "run.h5"))).result =
      .ok ⟨2, .ofText "out/run.h5", some (.ofText "out/run.h5")⟩ ∧
    ∀ file, Run.readRun ((namedWriter "run.h5" "run.h5").finalize
      (twoWritten (namedWriter "run.h5" "run.h5"))).state.desk.disk "out/run.h5" ≠ .ok file := by
  have hlost : (Run.readRun ((namedWriter "run.h5" "run.h5").finalize
      (twoWritten (namedWriter "run.h5" "run.h5"))).state.desk.disk "out/run.h5").toOption.isNone =
        true := by
    decide +kernel
  refine ⟨rfl, rfl, stored_of_twoStored (by decide +kernel), by decide +kernel, ?_⟩
  intro file hfile
  rw [hfile] at hlost
  contradiction

end PixelTelescope.Writer
