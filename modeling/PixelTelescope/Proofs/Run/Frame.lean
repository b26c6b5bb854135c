import PixelTelescope.Proofs.Disk.Write
import PixelTelescope.Proofs.Run.Desk

namespace PixelTelescope.Run

variable {α : Type}

theorem Session.append_opened (s : Session α) (hazard : Hazard α) (r : Event.Record α) :
    (s.append hazard r).state.opened = s.opened := by
  unfold Session.append
  split
  · dsimp only
    split
    · rfl
    · split <;> rfl
  · rfl

theorem Session.close_opened (s : Session α) : s.close.state.opened = s.opened := by
  unfold Session.close
  split <;> rfl

namespace Desk

structure Rests (w : Desk α) (path : Path) : Prop where
  opened : ∃ o, w.session.opened = some o ∧ o.path = path.text
  normal : path.Normal
  found : ∃ f, w.disk.find path = .ok (.file (.run f))

structure Follows (w' w : Desk α) (path : Path) : Prop where
  rests : w'.Rests path
  locate : ∀ q, w'.disk.locate q = w.disk.locate q

variable {w w' w'' : Desk α} {t : Title} {path : Path} {rs : List (Event.Record α)}

theorem Holds.rests (h : w.Holds t path rs) : w.Rests path :=
  ⟨⟨_, h.opened, rfl⟩, h.normal, _, h.disk⟩

theorem Rests.refl (h : w.Rests path) : w.Follows w path := ⟨h, fun _ => rfl⟩

theorem Follows.trans (h : w''.Follows w' path) (h' : w'.Follows w path) : w''.Follows w path :=
  ⟨h.rests, fun q => (h.locate q).trans (h'.locate q)⟩

theorem locate_store {d : Disk (Content α)} {c : Content α}
    (h : d.find path = .ok (.file c)) (f : File α) (q : Path) :
    (store d path f).locate q = d.locate q := by
  obtain ⟨l, hl, hn⟩ := Disk.find_ok.mp h
  have hwrite : d.write path (.run f) = .ok (d.put l (.file (.run f))) :=
    Disk.write_ok.mpr ⟨l, hl, by simp [hn], rfl⟩
  rw [store, hwrite]
  exact Disk.locate_put_file hn _ q

/-- Bringing the file to where the session is moves nothing. -/
theorem Rests.sync (h : w.Rests path) {s : Session α} (hs : s.opened = w.session.opened) :
    (w.sync s).Follows w path := by
  obtain ⟨o, ho, hpath⟩ := h.opened
  obtain ⟨f, hf⟩ := h.found
  have hopened := hs.trans ho
  have hsync : w.sync s = { w with disk := store w.disk path s.file, session := s } := by
    simp only [Desk.sync, hopened, hpath, Path.ofText_text h.normal]
  rw [hsync]
  exact ⟨⟨⟨o, hopened, hpath⟩, h.normal, _, find_store hf _⟩, locate_store hf _⟩

theorem Rests.put (h : w.Rests path) (r : Event.Record α) :
    (w.put r).state.Follows w path := by
  simp only [Desk.put, Desk.append]
  split
  · exact h.sync (Session.append_opened ..)
  · exact h.refl

theorem Rests.close (h : w.Rests path) : w.close.state.Follows w path := by
  simp only [Desk.close]
  split
  · exact h.sync (Session.close_opened _)
  · obtain ⟨o, ho, hpath⟩ := h.opened
    exact ⟨⟨⟨o, (Session.close_opened _).trans ho, hpath⟩, h.normal, h.found⟩, fun _ => rfl⟩

end Desk

variable {location : Location}

theorem store_beside {d : Disk (Content α)} {path : Path} {c : Content α}
    (h : d.find path = .ok (.file c)) (hl : d.locate path = .ok location) (f : File α) :
    (store d path f).SameBeside d location := by
  obtain ⟨d', hw, -⟩ := Disk.write_of_find h (.run f)
  rw [store, hw]
  exact Disk.write_beside hw hl

namespace Desk

variable {w : Desk α} {path : Path}

/-- A session keeps to its own file. -/
theorem Rests.sync_beside (h : w.Rests path) {s : Session α}
    (hs : s.opened = w.session.opened) (hl : w.disk.locate path = .ok location) :
    (w.sync s).disk.SameBeside w.disk location := by
  obtain ⟨o, ho, hpath⟩ := h.opened
  obtain ⟨f, hf⟩ := h.found
  have hsync : (w.sync s).disk = store w.disk path s.file := by
    simp only [Desk.sync, hs.trans ho, hpath, Path.ofText_text h.normal]
  rw [hsync]
  exact store_beside hf hl _

theorem Rests.put_beside (h : w.Rests path) (hl : w.disk.locate path = .ok location)
    (r : Event.Record α) : (w.put r).state.disk.SameBeside w.disk location := by
  simp only [Desk.put, Desk.append]
  split
  · exact h.sync_beside (Session.append_opened ..) hl
  · exact (Disk.SameFiles.refl _).beside location

theorem Rests.close_beside (h : w.Rests path) (hl : w.disk.locate path = .ok location) :
    w.close.state.disk.SameBeside w.disk location := by
  simp only [Desk.close]
  split
  · exact h.sync_beside (Session.close_opened _) hl
  · exact (Disk.SameFiles.refl _).beside location

theorem openRun_beside {run : Reading Float} {detector : String} {config : Option String}
    (h : (w.openRun path run detector config).result = .ok ()) :
    ∃ l, (w.openRun path run detector config).state.disk.locate path = .ok l ∧
      (w.openRun path run detector config).state.disk.SameBeside w.disk l := by
  simp only [openRun] at h ⊢
  cases hc : createFile w.disk path with
  | error f =>
    rw [hc] at h
    unfold Session.openRun at h
    split at h <;> simp [Except.map] at h
  | ok d =>
    obtain ⟨n, -, -, -, hfile⟩ := Session.openRun_holds h
    rw [hc] at hfile
    rw [hfile]
    have hw := createFile_ok hc
    have hfind := Disk.find_write hw
    obtain ⟨l, hl, hdir, hd⟩ := Disk.write_ok.mp hw
    have hnew : d.locate path = .ok l := hd ▸ Disk.locate_put hdir _ hl
    refine ⟨l, (locate_store hfind _ path).trans hnew, ?_⟩
    exact (store_beside hfind hnew _).trans (Disk.write_beside hw hl)

end Desk

end PixelTelescope.Run
