import PixelTelescope.Proofs.Run.RoundTrip
import PixelTelescope.Proofs.Run.Turns

namespace PixelTelescope.Run

variable {α : Type} {w : Desk α} {path : Path} {run : Int} {detector : String}
  {config : Option String} {f : Failure}

def Unwritable (detector : String) (config : Option String) : Prop :=
  ∃ s, (s = detector ∨ config = some s) ∧ '\x00' ∈ s.toList

/-- Why a run cannot be opened. Its file is made first; then the run number, the detector name and
the text of the configuration are written into it, and of them the first that the file does not take
counts. -/
inductive Hindrance (d : Disk (Content α)) (path : Path) (run : Int) (detector : String)
    (config : Option String) : Failure → Prop
  | place (hnul : Disk.hasNul path = false) (h : ∀ d', d.write path (.run {}) ≠ .ok d') :
      Hindrance d path run detector config (.output (.create path.text))
  | pathText (hnul : Disk.hasNul path = true) :
      Hindrance d path run detector config (.file .badName)
  | runNumber {d' : Disk (Content α)} (h : d.write path (.run {}) = .ok d')
      (hrun : Attribute.fits run = false) :
      Hindrance d path run detector config (.number .unsupported)
  | headerText {d' : Disk (Content α)} (h : d.write path (.run {}) = .ok d')
      (hrun : Attribute.fits run = true) (htext : Unwritable detector config) :
      Hindrance d path run detector config (.number .malformed)

structure Desk.Started (w : Desk α) (path : Path) (run : Int) (detector : String)
    (config : Option String) : Prop where
  stage : w.session.stage = .open
  count : w.session.count = 0
  opened : w.session.opened = some ⟨path.text, run, detector⟩
  spelled : path.SpelledBy path.text
  file : ∀ name, path.SpelledBy name → ∃ file, readRun w.disk name = .ok file ∧
    file.header = .ok ⟨run, detector, 0, formatVersion⟩ ∧
    Keyed.get? "config_text" file.attributes = config.map .text ∧ file.records = .ok []

/-- The first attribute that cannot be stored settles how writing attributes fails. -/
theorem writeAttributes_fault (file : File α) (attributes : List (String × Attribute)) :
    (writeAttributes file attributes).2 =
      ((attributes.map (·.2)).find? fun a => !a.isStorable).map attributeFailure := by
  induction attributes generalizing file with
  | nil => rfl
  | cons pair rest ih =>
    obtain ⟨name, a⟩ := pair
    rw [writeAttributes, List.map_cons, List.find?_cons]
    cases ha : a.isStorable with
    | true => simpa using ih _
    | false => simp

theorem begin_fault (run : Int) (detector : String) (config : Option String) :
    (File.begin run detector config : File α × Option Failure).2 =
      (((headerAttributes run detector config).map (·.2)).find? fun a => !a.isStorable).map
        attributeFailure := by
  rw [← writeAttributes_fault ({} : File α), File.begin]
  generalize writeAttributes ({} : File α) (headerAttributes run detector config) = written
  obtain ⟨file, fault⟩ := written
  cases fault <;> rfl

/-- A file takes the version and the name of the software always; of what is given, the run number
comes before the texts. -/
theorem begin_cases (run : Int) (detector : String) (config : Option String) :
    (Attribute.fits run = false ∧
      (File.begin run detector config : File α × Option Failure).2 = some (.number .unsupported)) ∨
    (Attribute.fits run = true ∧ Unwritable detector config ∧
      (File.begin run detector config : File α × Option Failure).2 = some (.number .malformed)) ∨
    (Attribute.fits run = true ∧ ¬ Unwritable detector config ∧
      (File.begin run detector config : File α × Option Failure).2 = none) := by
  have hversion : Attribute.isStorable (.text formatVersion) = true := by decide
  have hsoftware : Attribute.isStorable (.text software) = true := by decide
  have hzero : Attribute.isStorable (.int 0) = true := by decide
  have hnumber : Attribute.isStorable (.int run) = Attribute.fits run := rfl
  have htext (s : String) : (!Attribute.isStorable (.text s)) = true ↔ '\x00' ∈ s.toList := by
    simp [Attribute.isStorable]
  simp only [begin_fault, headerAttributes, List.map_cons, List.cons_append, List.nil_append,
    List.find?_cons, hversion, hsoftware, hzero, hnumber, Bool.not_true]
  -- what comes before the run number is stored in any case
  cases hrun : Attribute.fits run with
  | false => exact .inl ⟨rfl, rfl⟩
  | true =>
    right
    cases hdetector : (!Attribute.isStorable (.text detector)) with
    | true => exact .inl ⟨rfl, ⟨detector, .inl rfl, (htext detector).mp hdetector⟩, rfl⟩
    | false =>
      have hclean : '\x00' ∉ detector.toList := by simp [← htext, hdetector]
      cases config with
      | none => exact .inr ⟨rfl, by simpa [Unwritable] using hclean, rfl⟩
      | some s =>
        cases hs : (!Attribute.isStorable (.text s)) with
        | true => exact .inl ⟨rfl, ⟨s, .inr rfl, (htext s).mp hs⟩, by simp [hs, attributeFailure]⟩
        | false =>
          have hs' : '\x00' ∉ s.toList := by simp [← htext, hs]
          refine .inr ⟨rfl, ?_, by simp [hs]⟩
          simp [Unwritable, hclean, hs']

theorem Desk.Holds.started (h : w.Holds ⟨run, detector, config⟩ path []) :
    w.Started path run detector config := by
  have hfind := h.disk
  rw [h.session.file] at hfind
  refine ⟨h.session.stage, h.session.count, h.opened, Disk.spelledBy_of_find h.normal h.disk, ?_⟩
  intro name hname
  refine ⟨_, readRun_of_find hfind hname, header_storedFile _ _, ?_, ?_⟩
  · simp only [storedFile, List.length_nil, Title.attributes_zero]
    cases config with
    | none => rfl
    | some s => rfl
  · rw [records_storedFile (fun r hr => absurd hr List.not_mem_nil), byNumber, List.mergeSort_nil]

theorem createFile_of_write {d d' : Disk (Content α)} (h : d.write path (.run {}) = .ok d') :
    createFile d path = .ok d' := by
  simp only [createFile, h]

theorem createFile_cases (d : Disk (Content α)) (path : Path) :
    (∃ d', d.write path (.run {}) = .ok d' ∧ createFile d path = .ok d') ∨
    (∀ d', d.write path (.run {}) ≠ .ok d') ∧ createFile d path =
      .error (if Disk.hasNul path then .file .badName else .output (.create path.text)) := by
  unfold createFile
  split
  · rename_i d' hw
    exact .inl ⟨d', hw, rfl⟩
  · rename_i hw
    rw [if_pos (Disk.write_badName.mp hw), hw]
    exact .inr ⟨by simp, rfl⟩
  · rename_i fault hne hw
    have hnul : ¬ Disk.hasNul path = true := by
      rw [← Disk.write_badName (d := d) (c := .run {}), hw]
      simpa using hne
    rw [if_neg hnul, hw]
    exact .inr ⟨by simp, rfl⟩

theorem Desk.openRun_result (hs : w.session.stage = .uninitialized) (path : Path) (run : Int)
    (detector : String) (config : Option String) :
    (w.openRun path (.whole run) detector config).result =
      match createFile w.disk path with
      | .error f => .error f
      | .ok _ =>
        match (File.begin run detector config : File α × Option Failure).2 with
        | some f => .error f
        | none => .ok () := by
  simp only [Desk.openRun, Session.openRun, hs]
  cases createFile w.disk path with
  | error f => rfl
  | ok d =>
    simp only [Except.map, Reading.toInt]
    cases hb : (File.begin run detector config : File α × Option Failure) with
    | mk file fault => cases fault <;> rfl

/-- Each hindrance keeps a run from being opened, and nothing else does. -/
theorem Desk.openRun_error (hs : w.session.stage = .uninitialized) :
    (w.openRun path (.whole run) detector config).result = .error f ↔
      Hindrance w.disk path run detector config f := by
  rw [Desk.openRun_result hs]
  constructor
  · intro h
    rcases createFile_cases w.disk path with ⟨d', hw, hc⟩ | ⟨hw, hc⟩
    · rcases begin_cases (α := α) run detector config with
        ⟨hrun, hb⟩ | ⟨hrun, htext, hb⟩ | ⟨-, -, hb⟩
      all_goals
        rw [hc, hb] at h
        cases h
      · exact .runNumber hw hrun
      · exact .headerText hw hrun htext
    · rw [hc] at h
      cases h
      cases hnul : Disk.hasNul path with
      | true => exact .pathText hnul
      | false => exact .place hnul hw
  · intro h
    cases h with
    | place hnul hw =>
      rcases createFile_cases w.disk path with ⟨d', hd, -⟩ | ⟨-, hc⟩
      · exact absurd hd (hw d')
      · rw [hc, hnul]
        rfl
    | pathText hnul =>
      rcases createFile_cases w.disk path with ⟨d', hd, -⟩ | ⟨-, hc⟩
      · rw [Disk.write_badName.mpr hnul] at hd
        contradiction
      · rw [hc, hnul]
        rfl
    | runNumber hw hrun =>
      rw [createFile_of_write hw]
      rcases begin_cases (α := α) run detector config with ⟨-, hb⟩ | ⟨hfits, -⟩ | ⟨hfits, -⟩
      · simp only [hb]
      · rw [hrun] at hfits
        contradiction
      · rw [hrun] at hfits
        contradiction
    | headerText hw hrun htext =>
      rw [createFile_of_write hw]
      rcases begin_cases (α := α) run detector config with ⟨hlost, -⟩ | ⟨-, -, hb⟩ | ⟨-, hclean, -⟩
      · rw [hrun] at hlost
        contradiction
      · simp only [hb]
      · exact absurd htext hclean

/-- A run is opened whole, and its file then reads what was given and no event, or not at all, and
the session stays as it was made. -/
theorem opening_all_or_nothing {disk : Disk (Content α)} {history : List (Turn α)}
    (h : Made disk history w) (hs : w.session.stage = .uninitialized) (given : String) (run : Int)
    (detector : String) (config : Option String) :
    (((w.openRun (.ofText given) (.whole run) detector config).result = .ok () ∧
      (w.openRun (.ofText given) (.whole run) detector config).state.Started (.ofText given) run
        detector config) ∨
    ∃ f, (w.openRun (.ofText given) (.whole run) detector config).result = .error f ∧
      (w.openRun (.ofText given) (.whole run) detector config).state.session = {}) ∧
    ∀ f, (w.openRun (.ofText given) (.whole run) detector config).result = .error f ↔
      Hindrance w.disk (.ofText given) run detector config f := by
  obtain ⟨hfresh, -⟩ := h.stands.of_uninitialized hs
  refine ⟨?_, fun f => Desk.openRun_error hs⟩
  cases hr : (w.openRun (.ofText given) (.whole run) detector config).result with
  | error f => exact .inr ⟨f, rfl, (Desk.openRun_failed hs hr).1.trans hfresh⟩
  | ok _ =>
    obtain ⟨n, hn, hholds, -⟩ := Desk.openRun_holds (Path.ofText_normal given) hr
    obtain rfl : run = n := Except.ok.inj hn
    exact .inl ⟨rfl, hholds.started⟩

def wideOpening : Turn Float :=
  ⟨.openRun "run.h5" (.whole 18446744073709551616) "telescope" none, usedDesk⟩

theorem opening_all_or_nothing_again :
    (Made usedDesk.disk [wideOpening] wideOpening.after ∧
      wideOpening.after.session.stage = .uninitialized) ∧
    (wideOpening.after.openRun (.ofText "run.h5") (.whole 18446744073709551615) "telescope"
      (some "a = 1")).state.Started (.ofText "run.h5") 18446744073709551615 "telescope"
      (some "a = 1") := by
  have hmade : Made usedDesk.disk [wideOpening] wideOpening.after := Made.start.call _
  have hstage : wideOpening.after.session.stage = .uninitialized := rfl
  refine ⟨⟨hmade, hstage⟩, ?_⟩
  rcases (opening_all_or_nothing hmade hstage "run.h5" 18446744073709551615 "telescope"
    (some "a = 1")).1 with ⟨-, hstarted⟩ | ⟨f, hf, -⟩
  · exact hstarted
  · cases hf

theorem wide_opening_escapes :
    wideOpening.result ≠ .ok none ∧ ∀ fault, wideOpening.result ≠ .error (.output fault) := by
  have hresult : wideOpening.result = .error (.number .unsupported) := rfl
  rw [hresult]
  exact ⟨by simp, by simp⟩

end PixelTelescope.Run
