import PixelTelescope.Proofs.Run.Frame
import PixelTelescope.Proofs.Writer.Ending

namespace PixelTelescope.Writer

variable {w : Writer} {p : Progress} {path : Path} {location : Location}

theorem createOutputFile_files (w : Writer) (name extension : String) (p : Progress) :
    (w.createOutputFile name extension p).state.desk.disk.SameFiles p.desk.disk := by
  unfold createOutputFile
  split
  · exact .refl _
  · split
    · rename_i hmade
      exact Disk.makeDirectories_files hmade
    · exact .refl _

theorem placeGeometry_files (h : (w.placeGeometry p).result = .ok ()) :
    (w.placeGeometry p).state.desk.disk.SameFiles p.desk.disk := by
  unfold placeGeometry at h ⊢
  cases hname : w.settings.geometryFile.filter (· ≠ "") with
  | none => exact .refl _
  | some name =>
    rw [hname] at h
    obtain ⟨path, -, -, hs⟩ := Act.of_bind_ok h
    have hmade := createOutputFile_files w name "xml" p
    dsimp only
    rw [hs]
    generalize (w.createOutputFile name "xml" p).state = q at hmade ⊢
    exact hmade

/-- A run that starts makes directories and one file. -/
theorem start_beside (h : (w.start p).result = .ok ()) :
    ∃ path l, (w.start p).state.eventFile = some path ∧
      (w.start p).state.desk.disk.locate path = .ok l ∧
      (w.start p).state.desk.disk.SameBeside p.desk.disk l := by
  unfold start at h ⊢
  obtain ⟨_, hplaced, h, hs₁⟩ := Act.of_bind_ok h
  obtain ⟨path, -, h, hs₂⟩ := Act.of_bind_ok h
  obtain ⟨_, -, h, hs₃⟩ := Act.of_bind_ok h
  obtain ⟨_, hopen, -, hs₄⟩ := Act.of_bind_ok h
  have hmade := createOutputFile_files w w.settings.fileName "h5" (w.placeGeometry p).state
  rw [hs₁, hs₂, hs₃, hs₄]
  generalize (w.createOutputFile w.settings.fileName "h5" (w.placeGeometry p).state).state = q
    at hopen hmade ⊢
  obtain ⟨l, hl, hbeside⟩ := Run.Desk.openRun_beside hopen
  exact ⟨path, l, rfl, hl, hbeside.trans ((hmade.trans (placeGeometry_files hplaced)).beside l)⟩

theorem write_beside (h : p.desk.Rests path) (hl : p.desk.disk.locate path = .ok location)
    (e : Delivery Float) :
    (w.write e.1 e.2 p).state.desk.disk.SameBeside p.desk.disk location := by
  cases hb : w.builder.build e.1 e.2 with
  | error f =>
    rw [(write_unbuilt hb).1]
    exact (Disk.SameFiles.refl _).beside location
  | ok r =>
    rw [(write_built hb).1]
    exact h.put_beside hl r

/-- Events change no file but that of their run. -/
theorem settle_beside (h : p.desk.Rests path) (hl : p.desk.disk.locate path = .ok location)
    (es : List (Delivery Float)) :
    (Pool.settle (fun e => w.write e.1 e.2) p es).desk.disk.SameBeside p.desk.disk location := by
  induction es generalizing p with
  | nil => exact (Disk.SameFiles.refl _).beside location
  | cons e rest ih =>
    have hstep := follows_write (w := w) h e
    have hlocate := (hstep.desk.locate path).trans hl
    exact (ih hstep.desk.rests hlocate).trans (write_beside h hl e)

end PixelTelescope.Writer
