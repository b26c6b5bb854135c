import PixelTelescope.Proofs.Gear.Rotation
import PixelTelescope.Proofs.Gear.Shaped

namespace PixelTelescope.Gear

open Config (DetectorSection FieldSection)
open PixelTelescope.Geometry (Vec3 Mat3 Registry rotationAngles rotationMatrix)

structure Turned (s : DetectorSection ℝ) (a b c : ℝ) : Prop where
  orientation : s.orientation = .angles [a, b, c]
  first : a ∈ Set.Ioc (-180) 180
  middle : |b| < 90
  last : c ∈ Set.Ioc (-180) 180
  upright : 1e-12 ≤ Real.cos (b * (Real.pi / 180))

/-- A layer that tells a section whose lengths are in um, apart from the position. The sensor with
its chip and its margins makes the ladder. -/
structure Layer.Tells (l : Layer ℝ) (s : DetectorSection ℝ) : Prop where
  detector : l.detector = s.name ∧ l.type = s.type
  position : s.position = l.ladder.position.toList ∧ l.sensitive.position = l.ladder.position
  rotation : ∃ a b c, s.orientation = .angles [a, b, c] ∧ l.ladder.rotation = ⟨-a, -b, -c⟩
  pixels : s.pixels = [l.sensitive.columns, l.sensitive.rows]
  lengths : ∃ px py, s.pixelSize = [px, py] ∧
    l.ladder.size = ⟨l.sensitive.columns * px / 1000 + 2 * s.excess / 1000,
      l.sensitive.rows * py / 1000 + 2 * s.excess / 1000, (s.thickness + s.chip) / 1000⟩ ∧
    l.sensitive.size = ⟨l.sensitive.columns * px / 1000, l.sensitive.rows * py / 1000,
      s.thickness / 1000⟩ ∧
    l.sensitive.pitchX = px / 1000 ∧ l.sensitive.pitchY = py / 1000 ∧
    l.sensitive.resolution = px / (1000 * √12)

theorem outward_mm (x : ℝ) : Measure.mm.outward x = x := by
  norm_num [Measure.outward, Measure.factor]

theorem inward_mm (x : ℝ) : Measure.mm.inward x = x := by
  norm_num [Measure.inward, Measure.factor]

theorem inward_um (x : ℝ) : Measure.um.inward x = x / 1000 := by
  norm_num [Measure.inward, Measure.factor]
  ring

theorem outward_inward_T (x : ℝ) : Measure.T.outward (Measure.T.inward x) = x := by
  norm_num [Measure.inward, Measure.outward, Measure.factor]

theorem inward_deg (x : ℝ) : Measure.deg.inward x = x * (Real.pi / 180) := by
  norm_num [Measure.inward, Measure.factor]

theorem outward_neg_inward_deg (x : ℝ) : Measure.deg.outward (-Measure.deg.inward x) = -x := by
  have hpi := Real.pi_ne_zero
  rw [inward_deg]
  norm_num [Measure.outward, Measure.factor]
  field_simp

theorem inward_deg_mem_Ioc {x : ℝ} (h : x ∈ Set.Ioc (-180) 180) :
    Measure.deg.inward x ∈ Set.Ioc (-Real.pi) Real.pi := by
  have hpi := Real.pi_pos
  rw [inward_deg]
  exact ⟨by nlinarith [h.1], by nlinarith [h.2]⟩

variable {s : DetectorSection ℝ} {a b c : ℝ} {d : Geometry.Detector ℝ} {id : Int}
  {layer : Vec3 ℝ → Layer ℝ} {sections : List (DetectorSection ℝ)} {field : FieldSection ℝ}

theorem Turned.rotationAngles (h : Turned s a b c) :
    rotationAngles (rotationMatrix (Measure.deg.inward a) (Measure.deg.inward b)
      (Measure.deg.inward c)) =
      ⟨Measure.deg.inward a, Measure.deg.inward b, Measure.deg.inward c⟩ := by
  have hpi := Real.pi_pos
  obtain ⟨hlow, hhigh⟩ := abs_lt.mp h.middle
  have hb : Measure.deg.inward b ∈ Set.Ioo (-(Real.pi / 2)) (Real.pi / 2) := by
    rw [inward_deg]
    exact ⟨by nlinarith, by nlinarith⟩
  refine Geometry.rotationAngles_rotationMatrix (inward_deg_mem_Ioc h.first) hb
    (inward_deg_mem_Ioc h.last) ?_
  rw [inward_deg]
  exact h.upright

/-- Every whole number is a real one. -/
theorem countable_real (s : DetectorSection ℝ) : Countable s := by
  intro n _
  simp

/-- Every quantity of a detector comes in by one unit and goes out by another. -/
theorem tells_of_placed (h : s.Accepted) (ht : Turned s a b c)
    (hd : Geometry.Detector.ofSection s = .ok d) (hlayer : Layer.placed d id = .ok layer)
    {list : List ℝ} {position : Vec3 ℝ} (hlist : coordinates d.position .mm = .ok list)
    (hposition : vectorOr .missingIndex list = .ok position) : (layer position).Tells s := by
  obtain ⟨x, y, z, hxyz⟩ := h.position
  obtain ⟨columns, rows, hpixels, -⟩ := h.pixels
  obtain ⟨px, py, hpixelSize⟩ := h.pixelSize
  rw [Geometry.Detector.ofSection_angles ht.orientation, hxyz] at hd
  obtain rfl := Except.ok.inj hd
  have hpitch : s.pixelSize.map Measure.um.inward =
      [Measure.um.inward px, Measure.um.inward py] := by
    rw [hpixelSize]
    rfl
  rw [placed_eq rfl hpixels rfl rfl hpitch] at hlayer
  obtain rfl := Except.ok.inj hlayer
  obtain rfl := Except.ok.inj hlist
  obtain rfl := Except.ok.inj hposition
  have htwo : (2.0 : ℝ) = 2 := by norm_num
  refine ⟨⟨rfl, rfl⟩, ⟨?_, rfl⟩, ⟨a, b, c, ht.orientation, ?_⟩, hpixels, px, py, hpixelSize, ?_,
    ?_, ?_, ?_, ?_⟩
  · simp only [hxyz, Vec3.toList, outward_mm, inward_mm]
  · dsimp only
    rw [ht.rotationAngles]
    simp only [outwardVec, Vec3.map, outward_neg_inward_deg]
  · simp only [outwardVec, Vec3.map, outward_mm, Geometry.Model.ofSection, inward_um, htwo,
      Vec3.mk.injEq]
    exact ⟨by ring, by ring, by ring⟩
  · simp only [outwardVec, Vec3.map, outward_mm, Geometry.Model.ofSection, inward_um,
      Vec3.mk.injEq]
    exact ⟨by ring, by ring, trivial⟩
  · simp only [outward_mm, inward_um]
  · simp only [outward_mm, inward_um]
  · have htwelve : (12.0 : ℝ) = 12 := by norm_num
    simp only [outward_mm, inward_um, Scalar.sqrt_real, htwelve, div_div]

theorem ofRegistry_tells {r : Registry ℝ} {name : String} {ids : List (String × Int)}
    {doc : Document ℝ} (hsections : ∀ s ∈ sections, s.Accepted ∧ ∃ a b c, Turned s a b c)
    (hdetectors : List.Forall₂ (fun s d => Geometry.Detector.ofSection s = .ok d) sections
      r.detectors) (hdoc : (Document.ofRegistry name ids r).result = .ok doc) :
    List.Forall₂ (fun s l => l.Tells s) sections doc.layers := by
  refine (forall₂_comp (forall₂_mem hdetectors) (ofRegistry_placed hdoc)).imp ?_
  rintro s l ⟨d, ⟨hs, -, hd⟩, id, layer, list, position, hlayer, hlist, hposition, rfl⟩
  obtain ⟨haccepted, a, b, c, hturned⟩ := hsections s hs
  exact tells_of_placed haccepted hturned hd hlayer hlist hposition

theorem exists_detectors (h : ∀ s ∈ sections, s.Accepted ∧ ∃ a b c, Turned s a b c) :
    ∃ detectors, sections.mapM Geometry.Detector.ofSection = .ok detectors := by
  obtain ⟨detectors, hmap, -⟩ : ∃ detectors, sections.mapM Geometry.Detector.ofSection =
      .ok detectors ∧ List.Forall₂ (fun _ _ => True) sections detectors := by
    refine exists_mapM_ok fun s hs => ?_
    obtain ⟨-, a, b, c, hturned⟩ := h s hs
    exact ⟨_, Geometry.Detector.ofSection_angles hturned.orientation, trivial⟩
  exact ⟨detectors, hmap⟩

/-- Accepted sections make a telescope that can be told, as long as no name is used twice and the
gradient is an array. -/
theorem exists_registry (hsections : ∀ s ∈ sections, s.Accepted ∧ ∃ a b c, Turned s a b c)
    (hnames : (sections.map (·.name)).Nodup) (hfield : field.Accepted)
    (hkind : field.kind ≠ .custom) (heven : field.Even) :
    ∃ r, Registry.ofSections sections (some field) = .ok r ∧
      List.Forall₂ (fun s d => Geometry.Detector.ofSection s = .ok d) sections r.detectors ∧
      Tellable r ∧ r.field.kind = field.kind ∧
      r.field.base = .vector (field.vector.map Measure.T.inward) := by
  have hturnable : ∀ s ∈ sections, Geometry.Turnable s.orientation := by
    intro s hs
    obtain ⟨-, a, b, c, hturned⟩ := hsections s hs
    exact hturned.orientation ▸ .angles a b c
  obtain ⟨r, hr⟩ := Registry.ofSections_ok_iff.mpr ⟨hturnable, hnames, hkind, heven⟩
  obtain ⟨hdetectors, hfields⟩ := Registry.ofSections_parts hr
  obtain ⟨htoldKind, hbase⟩ := Geometry.MagneticField.ofSection_parts (hfields field rfl)
  refine ⟨r, hr, hdetectors, ⟨fun d hd => ?_, fun _ => ?_⟩, htoldKind, hbase⟩
  · obtain ⟨s, hs, hbuilt⟩ := exists_of_mem_right hdetectors hd
    exact (countable_real s).shaped (hsections s hs).1 hbuilt
  · obtain ⟨x, y, z, hvector⟩ := hfield
    exact ⟨_, _, _, by rw [hbase, hvector]; rfl⟩

theorem fieldVector_configured {r : Registry ℝ} {v : Vec3 ℝ} (hfield : field.Accepted)
    (hkind : r.field.kind = field.kind)
    (hbase : r.field.base = .vector (field.vector.map Measure.T.inward))
    (hv : fieldVector r = .ok v) :
    v.toList = if field.kind = .constant then field.vector else [0, 0, 0] := by
  obtain ⟨x, y, z, hvector⟩ := hfield
  rw [hvector] at hbase
  split
  · rename_i hconstant
    rw [fieldVector_constant (hkind.trans hconstant) hbase] at hv
    rw [← Except.ok.inj hv, hvector, Vec3.toList, outward_inward_T, outward_inward_T,
      outward_inward_T]
  · rename_i hother
    rw [fieldVector_other (hkind ▸ hother)] at hv
    rw [← Except.ok.inj hv, Vec3.toList, Scalar.zero_real]

/-- The values of the sections reach the document in its units. A gradient that is no array keeps
the telescope from being built, also where the kind of the field has no use for a gradient. -/
theorem configured_values_reach_document
    (hsections : ∀ s ∈ sections, s.Accepted ∧ ∃ a b c, Turned s a b c)
    (hnames : (sections.map (·.name)).Nodup) (hfield : field.Accepted)
    (hkind : field.kind ≠ .custom) (name : String) (ids : List (String × Int)) :
    (field.Even → ∃ r doc, Registry.ofSections sections (some field) = .ok r ∧
        (Document.ofRegistry name ids r).result = .ok doc ∧
        List.Forall₂ (fun s l => l.Tells s) sections doc.layers ∧
        doc.field.toList = if field.kind = .constant then field.vector else [0, 0, 0]) ∧
      (¬ field.Even → Registry.ofSections sections (some field) = .error (.shape .ragged)) := by
  refine ⟨fun heven => ?_, fun huneven => ?_⟩
  · obtain ⟨r, hregistry, hdetectors, htellable, htoldKind, hbase⟩ :=
      exists_registry hsections hnames hfield hkind heven
    obtain ⟨doc, hdoc⟩ := htellable.document name ids
    exact ⟨r, doc, hregistry, hdoc, ofRegistry_tells hsections hdetectors hdoc,
      fieldVector_configured hfield htoldKind hbase (ofRegistry_parts hdoc).1⟩
  · obtain ⟨detectors, hmap⟩ := exists_detectors hsections
    rw [Registry.ofSections_eq hmap, Geometry.MagneticField.ofSection_uneven hkind huneven]
    rfl

noncomputable def tiltedSection : DetectorSection ℝ where
  name := "tilted"
  type := "sensor"
  position := [-20, 0, 150]
  orientation := .angles [45, 60, -90]
  pixels := [1152, 576]
  pixelSize := [18, 20]
  thickness := 50
  excess := 100
  chip := 700

def constantSection (gradient : Option (List (List ℝ))) : FieldSection ℝ where
  kind := .constant
  vector := [0, 0, 1]
  gradient := gradient

theorem tiltedSection_accepted : tiltedSection.Accepted :=
  ⟨⟨-20, 0, 150, rfl⟩, ⟨1152, 576, rfl, by decide, by decide⟩, 18, 20, rfl⟩

theorem tiltedSection_turned : Turned tiltedSection 45 60 (-90) where
  orientation := rfl
  first := ⟨by norm_num, by norm_num⟩
  middle := by norm_num [abs_lt]
  last := ⟨by norm_num, by norm_num⟩
  upright := by
    have hthird : (60 : ℝ) * (Real.pi / 180) = Real.pi / 3 := by ring
    rw [hthird, Real.cos_pi_div_three]
    norm_num

theorem configured_values_reach_document_tilted :
    ∃ r doc l, Registry.ofSections [tiltedSection]
        (some (constantSection (some [[1, 2], [3, 4]]))) = .ok r ∧
      (Document.ofRegistry "telescope" [] r).result = .ok doc ∧ doc.layers = [l] ∧
      l.Tells tiltedSection ∧ doc.field.toList = [0, 0, 1] := by
  have hsections : ∀ s ∈ [tiltedSection], s.Accepted ∧ ∃ a b c, Turned s a b c := by
    intro s hs
    obtain rfl := List.mem_singleton.mp hs
    exact ⟨tiltedSection_accepted, 45, 60, -90, tiltedSection_turned⟩
  have heven : (constantSection (some [[1, 2], [3, 4]])).Even := by
    intro rows hrows
    obtain rfl := Option.some.inj hrows
    exact ⟨2, by simp⟩
  obtain ⟨r, doc, hr, hdoc, hlayers, hfield⟩ :=
    (configured_values_reach_document hsections (List.nodup_singleton _) ⟨0, 0, 1, rfl⟩
      (by decide) "telescope" []).1 heven
  obtain ⟨l, rest, hl, hrest, hdocLayers⟩ := List.forall₂_cons_left_iff.mp hlayers
  obtain rfl := List.forall₂_nil_left_iff.mp hrest
  exact ⟨r, doc, l, hr, hdoc, hdocLayers, hl, hfield⟩

/-- A constant field has no use for a gradient, and yet rows of different lengths keep this
telescope from being built. -/
theorem unused_gradient_refuses_telescope :
    (tiltedSection.Accepted ∧ Turned tiltedSection 45 60 (-90)) ∧
      (constantSection (some [[1], [1, 2]])).Accepted ∧
      ∀ r, Registry.ofSections [tiltedSection] (some (constantSection (some [[1], [1, 2]]))) ≠
        .ok r := by
  refine ⟨⟨tiltedSection_accepted, tiltedSection_turned⟩, ⟨0, 0, 1, rfl⟩, fun r h => ?_⟩
  have hmap : [tiltedSection].mapM Geometry.Detector.ofSection = .ok [_] :=
    mapM_eq_ok.mpr
      (.cons (Geometry.Detector.ofSection_angles tiltedSection_turned.orientation) .nil)
  rw [Registry.ofSections_eq hmap] at h
  obtain ⟨told, htold, -⟩ := bind_eq_ok.mp h
  contradiction

end PixelTelescope.Gear
