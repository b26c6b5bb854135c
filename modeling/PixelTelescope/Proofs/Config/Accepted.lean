import Mathlib.Data.List.Basic
import PixelTelescope.Config.Sections

namespace PixelTelescope.Config

namespace Checked

variable {β γ : Type} {name : String} {fields : List (String × Value)} {step : Step} {rule : Rule}
  {holds : β → Bool} {check : Value → Checked β} {default x : β}

theorem and_eq_ok {f : Checked (β → γ)} {x : Checked β} {z : γ} :
    f.and x = .ok z ↔ ∃ make y, f = .ok make ∧ x = .ok y ∧ make y = z := by
  cases f with
  | ok make =>
    cases x with
    | ok y => simp [and]
    | error r => simp [and]
  | error r =>
    cases x with
    | ok y => simp [and]
    | error s => simp [and]

theorem and_ok {f : Checked (β → γ)} {make : β → γ} {c : Checked β} (hf : f = .ok make)
    (hc : c = .ok x) : f.and c = .ok (make x) := and_eq_ok.mpr ⟨make, x, hf, hc, rfl⟩

theorem ensure_eq_ok {c : Checked β} :
    c.ensure holds rule = .ok x ↔ c = .ok x ∧ holds x = true := by
  cases c with
  | ok y =>
    rw [ensure]
    split
    · rename_i hy
      refine ⟨fun h => ⟨h, ?_⟩, fun h => h.1⟩
      rwa [← Except.ok.inj h]
    · rename_i hy
      refine ⟨fun h => by contradiction, fun ⟨h, hx⟩ => absurd ?_ hy⟩
      rwa [Except.ok.inj h]
  | error r => simp [ensure]

theorem under_eq_ok {c : Checked β} : c.under step = .ok x ↔ c = .ok x := by
  cases c with
  | ok y => rfl
  | error r => simp [under]

/-- A field that was not left out has been checked. -/
theorem given_eq_ok (h : given name fields default check = .ok x) :
    x = default ∨ ∃ v, check v = .ok x := by
  unfold given at h
  split at h
  · exact .inr ⟨_, under_eq_ok.mp h⟩
  · exact .inl (Except.ok.inj h).symm

theorem required_eq_ok (h : required name fields check = .ok x) : ∃ v, check v = .ok x := by
  unfold required at h
  split at h
  · exact ⟨_, under_eq_ok.mp h⟩
  · contradiction

theorem table_eq_ok {check : List (String × Value) → Checked β} {v : Value}
    (h : table check v = .ok x) : ∃ fields, check fields = .ok x := by
  unfold table at h
  split at h
  · exact ⟨_, h⟩
  · contradiction

theorem itemsFrom_eq_ok {vs : List Value} {n : Nat} {xs : List β}
    (h : itemsFrom check n vs = .ok xs) : ∀ x ∈ xs, ∃ v, check v = .ok x := by
  induction vs generalizing n xs with
  | nil =>
    obtain rfl := Except.ok.inj h
    simp
  | cons v rest ih =>
    rw [itemsFrom] at h
    obtain ⟨make, more, hmake, hmore, rfl⟩ := and_eq_ok.mp h
    obtain ⟨cons, y, hcons, hy, rfl⟩ := and_eq_ok.mp hmake
    obtain rfl := Except.ok.inj hcons
    intro x hx
    rcases List.mem_cons.mp hx with rfl | hx
    · exact ⟨v, under_eq_ok.mp hy⟩
    · exact ih hmore x hx

theorem items_eq_ok {v : Value} {xs : List β} (h : items check v = .ok xs) :
    ∀ x ∈ xs, ∃ v, check v = .ok x := by
  unfold items at h
  split at h
  · exact itemsFrom_eq_ok h
  · contradiction

end Checked

open Checked

variable {α : Type} {fields : Fields}

/-- Where the fields of a section that passes are taken from, each by itself. -/
structure RunSection.Taken (fields : Fields) (s : RunSection) : Prop where
  number : given "run_number" fields 1 asWhole = .ok s.number
  workers : given "workers" fields .auto asWorkers = .ok s.workers
  progress : given "progress" fields true asTruth = .ok s.progress
  diagnostics : given "diagnostics_level" fields 1 asDiagnostics = .ok s.diagnostics
  events : given "n_events" fields 100 asWhole = .ok s.events
  seed : given "seed" fields none (optional asWhole) = .ok s.seed
  hitsPerDetector : given "hits_per_detector" fields 2.0 asNumber = .ok s.hitsPerDetector

theorem RunSection.check_eq_ok {s : RunSection} :
    RunSection.check fields = .ok s ↔ s.Taken fields := by
  constructor
  · intro h
    obtain ⟨_, hits, h₁, hhits, rfl⟩ := and_eq_ok.mp h
    obtain ⟨_, seed, h₂, hseed, rfl⟩ := and_eq_ok.mp h₁
    obtain ⟨_, events, h₃, hevents, rfl⟩ := and_eq_ok.mp h₂
    obtain ⟨_, diagnostics, h₄, hdiagnostics, rfl⟩ := and_eq_ok.mp h₃
    obtain ⟨_, progress, h₅, hprogress, rfl⟩ := and_eq_ok.mp h₄
    obtain ⟨_, workers, h₆, hworkers, rfl⟩ := and_eq_ok.mp h₅
    obtain ⟨_, number, h₇, hnumber, rfl⟩ := and_eq_ok.mp h₆
    obtain rfl := Except.ok.inj h₇
    exact ⟨hnumber, hworkers, hprogress, hdiagnostics, hevents, hseed, hhits⟩
  · rintro ⟨hnumber, hworkers, hprogress, hdiagnostics, hevents, hseed, hhits⟩
    exact and_ok (and_ok (and_ok (and_ok (and_ok (and_ok (and_ok rfl
      hnumber) hworkers) hprogress) hdiagnostics) hevents) hseed) hhits

structure SourceSection.Taken (fields : Fields) (s : SourceSection) : Prop where
  outputDir : given "output_dir" fields "output" asText = .ok s.outputDir
  format : given "input_format" fields .synthetic (asWord SourceFormat.ofText?) = .ok s.format
  inputPath : given "input_path" fields none (optional asText) = .ok s.inputPath
  input : s.hasInput = true

theorem SourceSection.check_eq_ok {s : SourceSection} :
    SourceSection.check fields = .ok s ↔ s.Taken fields := by
  constructor
  · intro h
    obtain ⟨h, hinput⟩ := ensure_eq_ok.mp h
    obtain ⟨_, inputPath, h₁, hinputPath, rfl⟩ := and_eq_ok.mp h
    obtain ⟨_, format, h₂, hformat, rfl⟩ := and_eq_ok.mp h₁
    obtain ⟨_, outputDir, h₃, houtputDir, rfl⟩ := and_eq_ok.mp h₂
    obtain rfl := Except.ok.inj h₃
    exact ⟨houtputDir, hformat, hinputPath, hinput⟩
  · rintro ⟨houtputDir, hformat, hinputPath, hinput⟩
    exact ensure_eq_ok.mpr ⟨and_ok (and_ok (and_ok rfl houtputDir) hformat) hinputPath, hinput⟩

structure WriterSection.Taken (fields : Fields) (s : WriterSection) : Prop where
  fileName : given "file_name" fields "output.h5" asText = .ok s.fileName
  geometryFile : given "geometry_file" fields (some "allpix_squared_gear.xml")
    (optional asText) = .ok s.geometryFile
  detectorName : given "detector_name" fields "EUTelescope" asText = .ok s.detectorName
  pixelType : given "pixel_type" fields .timed (asChoice PixelType.ofValue?) = .ok s.pixelType
  truth : given "dump_mc_truth" fields false asTruth = .ok s.truth
  eventType : given "event_type" fields 2 asWhole = .ok s.eventType
  collection : given "output_collection_name" fields none (optional asText) = .ok s.collection
  assignment : given "detector_assignment" fields none (optional asRows) = .ok s.assignment

theorem WriterSection.check_eq_ok {s : WriterSection} :
    WriterSection.check fields = .ok s ↔ s.Taken fields := by
  constructor
  · intro h
    obtain ⟨_, rows, h₁, hrows, rfl⟩ := and_eq_ok.mp h
    obtain ⟨_, collection, h₂, hcollection, rfl⟩ := and_eq_ok.mp h₁
    obtain ⟨_, eventType, h₃, heventType, rfl⟩ := and_eq_ok.mp h₂
    obtain ⟨_, truth, h₄, htruth, rfl⟩ := and_eq_ok.mp h₃
    obtain ⟨_, pixelType, h₅, hpixelType, rfl⟩ := and_eq_ok.mp h₄
    obtain ⟨_, detectorName, h₆, hdetectorName, rfl⟩ := and_eq_ok.mp h₅
    obtain ⟨_, geometryFile, h₇, hgeometryFile, rfl⟩ := and_eq_ok.mp h₆
    obtain ⟨_, fileName, h₈, hfileName, rfl⟩ := and_eq_ok.mp h₇
    obtain rfl := Except.ok.inj h₈
    exact ⟨hfileName, hgeometryFile, hdetectorName, hpixelType, htruth, heventType, hcollection,
      hrows⟩
  · rintro ⟨hfileName, hgeometryFile, hdetectorName, hpixelType, htruth, heventType,
      hcollection, hrows⟩
    exact and_ok (and_ok (and_ok (and_ok (and_ok (and_ok (and_ok (and_ok rfl
      hfileName) hgeometryFile) hdetectorName) hpixelType) htruth) heventType) hcollection) hrows

structure FieldSection.Taken (fields : Fields) (s : FieldSection Float) : Prop where
  kind : given "type" fields .none (asWord Geometry.FieldKind.ofText?) = .ok s.kind
  vector : given "vector" fields [0.0, 0.0, 0.0]
    (fun v => (asNumbers v).ensure (hasLength 3) .fieldComponents) = .ok s.vector
  gradient : given "gradient" fields none (optional asGrid) = .ok s.gradient

theorem FieldSection.check_eq_ok {s : FieldSection Float} :
    FieldSection.check fields = .ok s ↔ s.Taken fields := by
  constructor
  · intro h
    obtain ⟨_, gradient, h₁, hgradient, rfl⟩ := and_eq_ok.mp h
    obtain ⟨_, vector, h₂, hvector, rfl⟩ := and_eq_ok.mp h₁
    obtain ⟨_, kind, h₃, hkind, rfl⟩ := and_eq_ok.mp h₂
    obtain rfl := Except.ok.inj h₃
    exact ⟨hkind, hvector, hgradient⟩
  · rintro ⟨hkind, hvector, hgradient⟩
    exact and_ok (and_ok (and_ok rfl hkind) hvector) hgradient

structure DetectorSection.Taken (fields : Fields) (s : DetectorSection Float) : Prop where
  name : required "name" fields asText = .ok s.name
  type : given "type" fields "mimosa26" asText = .ok s.type
  position : required "position" fields
    (fun v => (asNumbers v).ensure (hasLength 3) .positionComponents) = .ok s.position
  orientation :
    given "orientation" fields (.angles [0.0, 0.0, 0.0]) asOrientation = .ok s.orientation
  pixels : given "number_of_pixels" fields [1152, 576] asPixels = .ok s.pixels
  pixelSize : given "pixel_size" fields [18.4, 18.4]
    (fun v => (asNumbers v).ensure (hasLength 2) .pairComponents) = .ok s.pixelSize
  thickness : given "sensor_thickness" fields 50.0 asNumber = .ok s.thickness
  excess : given "sensor_excess" fields 0.0 asNumber = .ok s.excess
  chip : given "chip_thickness" fields 0.0 asNumber = .ok s.chip

theorem DetectorSection.check_eq_ok {s : DetectorSection Float} :
    DetectorSection.check fields = .ok s ↔ s.Taken fields := by
  constructor
  · intro h
    obtain ⟨_, chip, h₁, hchip, rfl⟩ := and_eq_ok.mp h
    obtain ⟨_, excess, h₂, hexcess, rfl⟩ := and_eq_ok.mp h₁
    obtain ⟨_, thickness, h₃, hthickness, rfl⟩ := and_eq_ok.mp h₂
    obtain ⟨_, pixelSize, h₄, hpixelSize, rfl⟩ := and_eq_ok.mp h₃
    obtain ⟨_, pixels, h₅, hpixels, rfl⟩ := and_eq_ok.mp h₄
    obtain ⟨_, orientation, h₆, horientation, rfl⟩ := and_eq_ok.mp h₅
    obtain ⟨_, position, h₇, hposition, rfl⟩ := and_eq_ok.mp h₆
    obtain ⟨_, type, h₈, htype, rfl⟩ := and_eq_ok.mp h₇
    obtain ⟨_, name, h₉, hname, rfl⟩ := and_eq_ok.mp h₈
    obtain rfl := Except.ok.inj h₉
    exact ⟨hname, htype, hposition, horientation, hpixels, hpixelSize, hthickness, hexcess, hchip⟩
  · rintro ⟨hname, htype, hposition, horientation, hpixels, hpixelSize, hthickness, hexcess,
      hchip⟩
    exact and_ok (and_ok (and_ok (and_ok (and_ok (and_ok (and_ok (and_ok (and_ok rfl
      hname) htype) hposition) horientation) hpixels) hpixelSize) hthickness) hexcess) hchip

structure Taken (fields : Fields) (c : Config) : Prop where
  run : given "run" fields {} (table RunSection.check) = .ok c.run
  source : given "io" fields {} (table SourceSection.check) = .ok c.source
  writer : given "writer" fields {} (table WriterSection.check) = .ok c.writer
  field : given "field" fields ⟨.none, [0.0, 0.0, 0.0], none⟩ (table FieldSection.check) =
    .ok c.field
  detectors : required "detectors" fields (items (table DetectorSection.check)) = .ok c.detectors

theorem check_eq_ok {c : Config} : check fields = .ok c ↔ c.Taken fields := by
  constructor
  · intro h
    obtain ⟨_, detectors, h₁, hdetectors, rfl⟩ := and_eq_ok.mp h
    obtain ⟨_, field, h₂, hfield, rfl⟩ := and_eq_ok.mp h₁
    obtain ⟨_, writer, h₃, hwriter, rfl⟩ := and_eq_ok.mp h₂
    obtain ⟨_, source, h₄, hsource, rfl⟩ := and_eq_ok.mp h₃
    obtain ⟨_, run, h₅, hrun, rfl⟩ := and_eq_ok.mp h₄
    obtain rfl := Except.ok.inj h₅
    exact ⟨hrun, hsource, hwriter, hfield, hdetectors⟩
  · rintro ⟨hrun, hsource, hwriter, hfield, hdetectors⟩
    exact and_ok (and_ok (and_ok (and_ok (and_ok rfl hrun) hsource) hwriter) hfield) hdetectors

structure DetectorSection.Accepted (s : DetectorSection α) : Prop where
  position : ∃ x y z, s.position = [x, y, z]
  pixels : ∃ columns rows, s.pixels = [columns, rows] ∧ 1 ≤ columns ∧ 1 ≤ rows
  pixelSize : ∃ x y, s.pixelSize = [x, y]

def FieldSection.Accepted (s : FieldSection α) : Prop := ∃ x y z, s.vector = [x, y, z]

theorem triple_of_hasLength {list : List α} (h : hasLength 3 list = true) :
    ∃ x y z, list = [x, y, z] :=
  List.length_eq_three.mp (by simpa [hasLength] using h)

theorem pair_of_hasLength {list : List α} (h : hasLength 2 list = true) : ∃ x y, list = [x, y] :=
  List.length_eq_two.mp (by simpa [hasLength] using h)

theorem asPixels_ok {v : Value} {list : List Int} (h : asPixels v = .ok list) :
    ∃ columns rows, list = [columns, rows] ∧ 1 ≤ columns ∧ 1 ≤ rows := by
  obtain ⟨h, hpositive⟩ := ensure_eq_ok.mp h
  obtain ⟨-, hlength⟩ := ensure_eq_ok.mp h
  obtain ⟨columns, rows, rfl⟩ := pair_of_hasLength hlength
  exact ⟨columns, rows, rfl, by simpa using hpositive⟩

/-- What the schema lets pass has its shape, also where a list was left out. -/
theorem DetectorSection.Taken.accepted {s : DetectorSection Float} (h : s.Taken fields) :
    s.Accepted := by
  refine ⟨?_, ?_, ?_⟩
  · obtain ⟨v, hv⟩ := required_eq_ok h.position
    exact triple_of_hasLength (ensure_eq_ok.mp hv).2
  · rcases given_eq_ok h.pixels with hdefault | ⟨v, hv⟩
    · exact ⟨1152, 576, hdefault, by decide, by decide⟩
    · exact asPixels_ok hv
  · rcases given_eq_ok h.pixelSize with hdefault | ⟨v, hv⟩
    · exact ⟨_, _, hdefault⟩
    · exact pair_of_hasLength (ensure_eq_ok.mp hv).2

theorem FieldSection.Taken.accepted {s : FieldSection Float} (h : s.Taken fields) :
    s.Accepted := by
  rcases given_eq_ok h.vector with hdefault | ⟨v, hv⟩
  · exact ⟨_, _, _, hdefault⟩
  · exact triple_of_hasLength (ensure_eq_ok.mp hv).2

/-- Every section of a configuration that passes. -/
theorem check_accepted {c : Config} (h : check fields = .ok c) :
    c.field.Accepted ∧ ∀ s ∈ c.detectors, s.Accepted := by
  have htaken := check_eq_ok.mp h
  constructor
  · rcases given_eq_ok htaken.field with hdefault | ⟨v, hv⟩
    · rw [hdefault]
      exact ⟨_, _, _, rfl⟩
    · obtain ⟨more, hmore⟩ := table_eq_ok hv
      exact (FieldSection.check_eq_ok.mp hmore).accepted
  · intro s hs
    obtain ⟨v, hv⟩ := required_eq_ok htaken.detectors
    obtain ⟨item, hitem⟩ := items_eq_ok hv s hs
    obtain ⟨more, hmore⟩ := table_eq_ok hitem
    exact (DetectorSection.check_eq_ok.mp hmore).accepted

end PixelTelescope.Config
