import PixelTelescope.Run.Content
import PixelTelescope.Proofs.Disk.Write
import PixelTelescope.Proofs.Run.Reading

namespace PixelTelescope.Run

variable {α : Type}

theorem createFile_ok {d d' : Disk (Content α)} {path : Path} (h : createFile d path = .ok d') :
    d.write path (.run {}) = .ok d' := by
  unfold createFile at h
  split at h
  · rename_i hw
    rw [hw, Except.ok.inj h]
  · contradiction
  · contradiction

theorem find_store {d : Disk (Content α)} {path : Path} {c : Content α}
    (h : d.find path = .ok (.file c)) (f : File α) :
    (store d path f).find path = .ok (.file (.run f)) := by
  obtain ⟨d', hw, hf⟩ := Disk.write_of_find h (.run f)
  rw [store, hw]
  exact hf

theorem readRun_of_find {d : Disk (Content α)} {path : Path} {f : File α}
    (h : d.find path = .ok (.file (.run f))) {name : String} (hname : path.SpelledBy name) :
    readRun d name = .ok f := by
  rw [readRun, Disk.read_of_find h hname]

namespace Desk

structure Holds (w : Desk α) (t : Title) (path : Path) (rs : List (Event.Record α)) : Prop where
  session : w.session.Holds t rs
  opened : w.session.opened = some ⟨path.text, t.run, t.detector⟩
  normal : path.Normal
  disk : w.disk.find path = .ok (.file (.run w.session.file))

structure Closed (w : Desk α) (t : Title) (path : Path) (rs : List (Event.Record α)) : Prop where
  stage : w.session.stage = .closed
  count : w.session.count = rs.length
  file : w.session.file = storedFile t rs
  disk : w.disk.find path = .ok (.file (.run (storedFile t rs)))
  distinct : (rs.map (·.number)).Nodup
  storable : ∀ r ∈ rs, Storable r

/-- Whatever the disk held before, an open run holds no event. -/
theorem openRun_holds {w : Desk α} {path : Path} {run : Reading Float} {detector : String}
    {config : Option String} (hp : path.Normal)
    (h : (w.openRun path run detector config).result = .ok ()) :
    ∃ n, run.toInt = .ok n ∧
      (w.openRun path run detector config).state.Holds ⟨n, detector, config⟩ path [] ∧
      (w.openRun path run detector config).state.hazards = w.hazards := by
  simp only [openRun] at h ⊢
  obtain ⟨n, hn, hholds, hopened, hfile⟩ := Session.openRun_holds h
  refine ⟨n, hn, ⟨hholds, hopened, hp, ?_⟩, trivial⟩
  rw [hfile]
  cases hc : createFile w.disk path with
  | ok d => exact find_store (Disk.find_write (createFile_ok hc)) _
  | error f =>
    rw [hc] at h
    unfold Session.openRun at h
    split at h <;> simp [Except.map] at h

variable {w : Desk α} {t : Title} {path : Path} {rs : List (Event.Record α)} {r : Event.Record α}

/-- The disk follows the session. -/
theorem Holds.sync (h : w.Holds t path rs) {s : Session α} {rs' : List (Event.Record α)}
    (hs : s.Holds t rs') (ho : s.opened = w.session.opened) :
    (w.sync s).Holds t path rs' ∧ (w.sync s).hazards = w.hazards := by
  have hopened : s.opened = some ⟨path.text, t.run, t.detector⟩ := ho.trans h.opened
  have hsync : w.sync s = { w with disk := store w.disk path s.file, session := s } := by
    simp only [Desk.sync, hopened, Path.ofText_text h.normal]
  rw [hsync]
  exact ⟨⟨hs, hopened, h.normal, find_store h.disk _⟩, rfl⟩

theorem Holds.append_eq (h : w.Holds t path rs) (hazard : Hazard α) (r : Event.Record α) :
    w.append hazard r = ⟨w.sync (w.session.append hazard r).state,
      (w.session.append hazard r).entries, (w.session.append hazard r).result⟩ := by
  simp only [append, h.session.stage]

theorem Holds.put_eq (h : w.Holds t path rs) (r : Event.Record α) :
    w.put r = ⟨w.sync (w.session.append (w.hazards r.number) r).state,
      (w.session.append (w.hazards r.number) r).entries,
      (w.session.append (w.hazards r.number) r).result⟩ :=
  h.append_eq (w.hazards r.number) r

theorem put_session {w : Desk α} (hs : w.session.stage = .open) (r : Event.Record α) :
    (w.put r).result = (w.session.append (w.hazards r.number) r).result ∧
      (w.put r).state.session = (w.session.append (w.hazards r.number) r).state ∧
      (w.put r).state.hazards = w.hazards := by
  simp only [put, append, hs, Desk.sync]
  split <;> exact ⟨trivial, rfl, rfl⟩

theorem Holds.put_stored (h : w.Holds t path rs) (hn : r.number ∉ rs.map (·.number))
    (hf : storeFault (w.hazards r.number) rs.length r = none) :
    (w.put r).result = .ok () ∧ (w.put r).state.Holds t path (rs ++ [r]) ∧
      (w.put r).state.hazards = w.hazards := by
  obtain ⟨hresult, hholds, hopened⟩ := h.session.append_stored hn hf
  rw [h.put_eq]
  exact ⟨hresult, h.sync hholds hopened⟩

/-- An event that is refused leaves the run as it stands. -/
theorem Holds.put_failed (h : w.Holds t path rs) (hc : (w.hazards r.number).Clears)
    (hn : r.number ∉ rs.map (·.number)) {fault : StoreFault}
    (hf : storeFault (w.hazards r.number) rs.length r = some fault) :
    (w.put r).result = .error (fault.failure r.number path.text) ∧
      (w.put r).state.Holds t path rs ∧ (w.put r).state.hazards = w.hazards := by
  obtain ⟨hstate, hresult⟩ := h.session.append_failed hc hn hf
  have hpath : w.session.path = path.text := by simp [Session.path, h.opened]
  rw [h.put_eq, hstate, hresult, hpath]
  exact ⟨rfl, h.sync h.session rfl⟩

/-- A run that ends keeps its events. -/
theorem Holds.close (h : w.Holds t path rs) :
    w.close.result = .ok rs.length ∧ w.close.state.Closed t path rs := by
  have hcount : w.session.file.setCount rs.length = storedFile t rs := by
    rw [h.session.file]
    exact congrArg (fun attributes => ({ storedFile t rs with attributes } : File α))
      (t.counted_attributes rs.length rs.length)
  have hclose : w.close = ⟨w.sync { w.session with stage := .closed, file := storedFile t rs }, [],
      .ok rs.length⟩ := by
    simp only [Desk.close, Session.close, h.session.stage, h.session.count, hcount]
  have hsync : w.sync { w.session with stage := .closed, file := storedFile t rs } =
      { w with
        disk := store w.disk path (storedFile t rs)
        session := { w.session with stage := .closed, file := storedFile t rs } } := by
    simp only [Desk.sync, h.opened, Path.ofText_text h.normal]
  rw [hclose, hsync]
  exact ⟨rfl, rfl, h.session.count, rfl, find_store h.disk _, h.session.distinct,
    h.session.storable⟩

end Desk

end PixelTelescope.Run
