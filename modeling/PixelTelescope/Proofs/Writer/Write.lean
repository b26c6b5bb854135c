import PixelTelescope.Proofs.Act
import PixelTelescope.Proofs.Assignment.Names
import PixelTelescope.Proofs.Pool.Account
import PixelTelescope.Proofs.Run.Built
import PixelTelescope.Proofs.Run.Desk
import PixelTelescope.Proofs.Run.Leftover
import PixelTelescope.Writer.Basic

namespace PixelTelescope.Writer

section Start

variable {w : Writer} {p : Progress}

section Create

variable {settings : Config.WriterSection} {registry : Geometry.Registry Float}
  {outputDir : String} {run : Int} {configText : Option String}

/-- What a writer is made of. -/
theorem create_ok (h : (create settings registry outputDir run configText).result = .ok w) :
    (settings.request w.registry.names).resolve = .ok w.assignment ∧ w.registry = registry ∧
      w.builder.run = w.run ∧ w.builder.eventType = w.settings.eventType := by
  obtain ⟨a, hresolve, rfl⟩ := map_eq_ok.mp h
  exact ⟨(Assignment.Request.logged_result _).symm.trans hresolve, rfl, rfl, rfl⟩

theorem create_outputDir
    (h : (create settings registry outputDir run configText).result = .ok w) :
    w.outputDir.Normal := by
  obtain ⟨a, -, rfl⟩ := map_eq_ok.mp h
  exact Path.ofText_normal outputDir

end Create

theorem outputPath_normal (hw : w.outputDir.Normal) {name extension : String}
    (he : extension ≠ "") {path : Path} (h : w.outputPath name extension = .ok path) :
    path.Normal := by
  unfold outputPath at h
  dsimp only at h
  split at h
  · rename_i given hgiven
    cases h
    refine Path.join_normal hw ?_
    split at hgiven
    · exact Path.withSuffix_normal (Path.ofText_normal name) he hgiven
    · exact Option.some.inj hgiven ▸ Path.ofText_normal name
  · cases h

theorem createOutputFile_ok {name extension : String} {path : Path}
    (h : (w.createOutputFile name extension p).result = .ok path) :
    w.outputPath name extension = .ok path := by
  unfold createOutputFile at h
  split at h
  · cases h
  · rename_i q hq
    split at h
    · rw [hq, Except.ok.inj h]
    · cases h

def title (w : Writer) : Run.Title := ⟨w.run, w.settings.detectorName, w.configText⟩

structure Progress.Holds (p : Progress) (w : Writer) (path : Path)
    (rs : List (Event.Record Float)) : Prop where
  file : p.eventFile = some path
  desk : p.desk.Holds w.title path rs

/-- A run that starts is empty, whatever the disk held before. -/
theorem start_holds (hw : w.outputDir.Normal) (h : (w.start p).result = .ok ()) :
    ∃ path, (w.start p).state.Holds w path [] := by
  unfold start at h ⊢
  obtain ⟨_, -, h, hs₁⟩ := Act.of_bind_ok h
  obtain ⟨path, hpath, h, hs₂⟩ := Act.of_bind_ok h
  obtain ⟨_, -, h, hs₃⟩ := Act.of_bind_ok h
  obtain ⟨_, hopen, -, hs₄⟩ := Act.of_bind_ok h
  dsimp only [onDesk] at hopen
  have hnormal := outputPath_normal hw (by decide) (createOutputFile_ok hpath)
  obtain ⟨n, hn, hholds, -⟩ := Run.Desk.openRun_holds hnormal hopen
  have hrun : w.run = n := Except.ok.inj hn
  subst hrun
  refine ⟨path, ?_, ?_⟩
  · rw [hs₁, hs₂, hs₃, hs₄]
    rfl
  · rw [hs₁, hs₂, hs₃, hs₄]
    exact hholds

end Start

/-- An event becomes a record that is stored, however many events stand before it. -/
def Delivers (w : Writer) (hazards : Int → Run.Hazard Float) (e : Delivery Float) : Prop :=
  ∃ r, w.builder.build e.1 e.2 = .ok r ∧ ∀ count, Run.storeFault (hazards e.1) count r = none

/-- An event does not become a record, or its record is refused, however many stand before it. -/
def Fails (w : Writer) (hazards : Int → Run.Hazard Float) (e : Delivery Float) : Prop :=
  ∀ r, w.builder.build e.1 e.2 = .ok r → ∀ count, Run.storeFault (hazards e.1) count r ≠ none

def Raises (w : Writer) (hazards : Int → Run.Hazard Float) (path : String) (e : Delivery Float)
    (f : Failure) : Prop :=
  w.builder.build e.1 e.2 = .error f ∨
    ∃ r count fault, w.builder.build e.1 e.2 = .ok r ∧
      Run.storeFault (hazards e.1) count r = some fault ∧ f = fault.failure e.1 path

variable {w : Writer} {p : Progress} {e : Delivery Float} {r : Event.Record Float}

theorem write_unbuilt {f : Failure} (h : w.builder.build e.1 e.2 = .error f) :
    (w.write e.1 e.2 p).state = p ∧ (w.write e.1 e.2 p).result = .error f :=
  Act.bind_error (a := Act.ofResult (w.builder.build e.1 e.2)) h

theorem write_built (h : w.builder.build e.1 e.2 = .ok r) :
    (w.write e.1 e.2 p).state = { p with desk := (p.desk.put r).state } ∧
      (w.write e.1 e.2 p).result = (p.desk.put r).result.map fun _ => r := by
  unfold write
  obtain ⟨hs₁, hr₁⟩ := Act.bind_ok (a := Act.ofResult (w.builder.build e.1 e.2)) (s := p)
    (f := fun r => do
      onDesk fun desk => desk.put r
      Act.log [.debug ("Event " ++ toString e.1 ++ ": " ++ toString r.hitCount ++ " hits")]
      return r) h
  rw [hs₁, hr₁]
  cases hput : (p.desk.put r).result with
  | ok x =>
    obtain ⟨hs₂, hr₂⟩ := Act.bind_ok (a := onDesk fun desk => desk.put r) (s := p)
      (f := fun _ => do
        Act.log [.debug ("Event " ++ toString e.1 ++ ": " ++ toString r.hitCount ++ " hits")]
        return r) hput
    exact ⟨hs₂, hr₂⟩
  | error f =>
    exact Act.bind_error (a := onDesk fun desk => desk.put r) (s := p) hput

structure Progress.Carries (p : Progress) (hazards : Int → Run.Hazard Float) (path : String)
    (numbers : List Int) : Prop where
  session : p.desk.session.Carries numbers
  path : p.desk.session.path = path
  hazards : p.desk.hazards = hazards

theorem Progress.Holds.carries {path : Path} (h : p.Holds w path []) :
    p.Carries p.desk.hazards path.text [] := by
  refine ⟨⟨h.desk.session.stage, [], ?_, by simp⟩, ?_, rfl⟩
  · rw [h.desk.session.file]
    rfl
  · simp [Run.Session.path, h.desk.opened]

variable {hazards : Int → Run.Hazard Float} {path : String} {numbers : List Int}

/-- What comes of an event does not depend on the events before it. -/
theorem Progress.Carries.write (h : p.Carries hazards path numbers) (hn : e.1 ∉ numbers) :
    (w.write e.1 e.2 p).state.Carries hazards path (numbers ++ [e.1]) ∧
      (w.Fails hazards e →
        ∃ f, (w.write e.1 e.2 p).result = .error f ∧ w.Raises hazards path e f) ∧
      (w.Delivers hazards e → ∃ r, (w.write e.1 e.2 p).result = .ok r) := by
  cases hb : w.builder.build e.1 e.2 with
  | error f =>
    obtain ⟨hstate, hresult⟩ := write_unbuilt (p := p) hb
    rw [hstate, hresult]
    refine ⟨⟨h.session.mono fun n hm => List.mem_append_left _ hm, h.path, h.hazards⟩, ?_, ?_⟩
    · exact fun _ => ⟨f, rfl, .inl hb⟩
    · rintro ⟨r, hr, -⟩
      rw [hb] at hr
      contradiction
  | ok r =>
    obtain ⟨hstate, hresult⟩ := write_built (p := p) hb
    obtain ⟨hput, hsession, hsame⟩ := Run.Desk.put_session h.session.stage r
    obtain ⟨-, hnumber, -⟩ := Run.build_ok hb
    rw [hnumber, h.hazards] at hput hsession
    obtain ⟨happend, hcarries, hopened⟩ := h.session.append (hnumber ▸ hn) (hazards e.1)
    rw [hresult, hput, happend, hstate]
    refine ⟨⟨?_, ?_, hsame.trans h.hazards⟩, ?_, ?_⟩
    · rw [hsession]
      exact hnumber ▸ hcarries
    · rw [hsession, Run.Session.path, hopened]
      exact h.path
    · intro hfails
      cases hf : Run.storeFault (hazards e.1) p.desk.session.count r with
      | none => exact absurd hf (hfails r hb _)
      | some fault =>
        rw [hnumber, h.path]
        exact ⟨_, rfl, .inr ⟨r, _, fault, hb, hf, rfl⟩⟩
    · rintro ⟨q, hq, hnone⟩
      obtain rfl : r = q := Except.ok.inj (hb.symm.trans hq)
      rw [hnone]
      exact ⟨r, rfl⟩

theorem Progress.Carries.outcomes (h : p.Carries hazards path numbers) {es : List (Delivery Float)}
    (hnew : ∀ e ∈ es, e.1 ∉ numbers) (hd : (es.map (·.1)).Nodup) :
    ∀ o ∈ Pool.outcomes (fun e => w.write e.1 e.2) p es,
      (w.Fails hazards o.1 → ∃ f, o.2 = .error f ∧ w.Raises hazards path o.1 f) ∧
        (w.Delivers hazards o.1 → ∃ r, o.2 = .ok r) := by
  induction es generalizing p numbers with
  | nil => simp [Pool.outcomes]
  | cons e rest ih =>
    obtain ⟨hcarries, hresult⟩ := h.write (w := w) (hnew e List.mem_cons_self)
    rw [List.map_cons, List.nodup_cons] at hd
    intro o ho
    rcases List.mem_cons.mp ho with rfl | ho
    · exact hresult
    · refine ih hcarries ?_ hd.2 o ho
      intro q hq hm
      rcases List.mem_append.mp hm with hm | hm
      · exact hnew q (List.mem_cons_of_mem _ hq) hm
      · exact hd.1 (List.mem_singleton.mp hm ▸ List.mem_map_of_mem hq)

end PixelTelescope.Writer
