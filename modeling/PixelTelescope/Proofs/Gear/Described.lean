import PixelTelescope.Proofs.Gear.Shaped

namespace PixelTelescope.Gear

open Config (DetectorSection FieldSection)
open PixelTelescope.Geometry (Detector MagneticField Registry)

variable {α : Type} [Scalar α] {sections : List (DetectorSection α)} {field : FieldSection α}
  {s : DetectorSection α} {d : Detector α} {r : Registry α} {f : Failure}

def describe (sections : List (DetectorSection α)) (field : FieldSection α) (name : String)
    (ids : List (String × Int)) : Except Failure (Document α) := do
  (Document.ofRegistry name ids (← Registry.ofSections sections (some field))).result

/-- What keeps accepted sections from being described, other than that they are turned down:
rows of different lengths, first of a matrix and then of a gradient, and last of all a number of
pixels that is too large to be multiplied by their size. -/
inductive Spoiled (sections : List (DetectorSection α)) (field : FieldSection α) : Failure → Prop
  | orientation {before after : List (DetectorSection α)} {s : DetectorSection α}
      {rows : List (List α)} (hsections : sections = before ++ s :: after)
      (hbefore : ∀ t ∈ before, ∃ d, Detector.ofSection t = .ok d)
      (hs : s.orientation = .matrix rows) (huneven : ¬ Even rows) :
      Spoiled sections field (.shape .ragged)
  | gradient {detectors : List (Detector α)}
      (hdetectors : sections.mapM Detector.ofSection = .ok detectors)
      (hkind : field.kind ≠ .custom) (huneven : ¬ field.Even) :
      Spoiled sections field (.shape .ragged)
  | pixels {r : Registry α} (hregistry : Registry.ofSections sections (some field) = .ok r)
      (hpixels : ∃ s ∈ sections, ¬ Countable s) :
      Spoiled sections field (.number .outOfRange)

/-- A telescope is built unless it is turned down or its rows are uneven. -/
theorem ofSections_cases (sections : List (DetectorSection α)) (field : FieldSection α) :
    (∃ r, Registry.ofSections sections (some field) = .ok r) ∨
    (∃ fault, Registry.ofSections sections (some field) = .error (.configuration fault)) ∨
    ∃ f, Registry.ofSections sections (some field) = .error f ∧ Spoiled sections field f := by
  rcases mapM_cases Detector.ofSection sections with
    ⟨detectors, hdetectors⟩ | ⟨before, s, after, f, hsections, hbefore, hs, hall⟩
  · rw [Registry.ofSections_eq hdetectors]
    by_cases hkind : field.kind = .custom
    · right
      left
      rw [MagneticField.ofSection, if_pos hkind]
      exact ⟨_, rfl⟩
    · by_cases heven : field.Even
      · obtain ⟨told, htold, -⟩ := MagneticField.ofSection_even hkind heven
        rw [bind_of_ok htold, Registry.ofDetectors]
        split
        · exact .inr (.inl ⟨_, rfl⟩)
        · exact .inl ⟨_, rfl⟩
      · right
        right
        rw [MagneticField.ofSection_uneven hkind heven]
        exact ⟨_, rfl, .gradient hdetectors hkind heven⟩
  · right
    have hregistry : Registry.ofSections sections (some field) = .error f := by
      rw [Registry.ofSections, hall]
      rfl
    rcases Detector.ofSection_cases s with ⟨d, m, hd, -⟩ | ⟨fault, hd⟩ | ⟨rows, hrows, huneven, hd⟩
    · cases hd.symm.trans hs
    · obtain rfl := Except.error.inj (hd.symm.trans hs)
      exact .inl ⟨fault, hregistry⟩
    · obtain rfl := Except.error.inj (hd.symm.trans hs)
      exact .inr ⟨_, hregistry, .orientation hsections hbefore hrows huneven⟩

theorem parts_uncountable (hsections : ∀ s ∈ sections, s.Accepted)
    (hdetectors : List.Forall₂ (fun s d => Detector.ofSection s = .ok d) sections r.detectors)
    (hcount : ∃ s ∈ sections, ¬ Countable s) (ids : List (String × Int)) :
    parts ids r = .error (.number .outOfRange) := by
  obtain ⟨s, hs, hcount⟩ := hcount
  rw [parts_eq]
  rcases mapM_cases (fun entry => partOf entry.1 (layerId ids entry.1.name entry.2))
    r.detectors.zipIdx with ⟨list, hlist⟩ | ⟨before, ⟨d, place⟩, after, f, hmem, -, hd, hparts⟩
  · -- not every part can succeed, since that of the section at hand does not
    obtain ⟨d, hd, hbuilt⟩ := exists_of_mem_right hdetectors.flip hs
    obtain ⟨place, hplace⟩ := List.mem_iff_getElem?.mp hd
    have hplaced : (d, place) ∈ r.detectors.zipIdx := List.mem_zipIdx_iff_getElem?.mpr hplace
    obtain ⟨part, -, hpart⟩ := exists_of_mem_right (mapM_eq_ok.mp hlist).flip hplaced
    rcases partOf_cases (hsections s hs) hbuilt (layerId ids d.name place) with
      ⟨hs, -⟩ | ⟨-, hnone⟩
    · exact absurd hs hcount
    · cases hnone.symm.trans hpart
  · -- whichever part fails first fails for the same reason
    have hplaced : (d, place) ∈ r.detectors.zipIdx := by simp [hmem]
    obtain ⟨s', hs', hbuilt⟩ := exists_of_mem_right hdetectors
      (List.mem_of_getElem? (List.mem_zipIdx_iff_getElem?.mp hplaced))
    rcases partOf_cases (hsections s' hs') hbuilt (layerId ids d.name place) with
      ⟨-, part, hpart⟩ | ⟨-, hnone⟩
    · cases hpart.symm.trans hd
    · obtain rfl := Except.error.inj (hnone.symm.trans hd)
      exact hparts

/-- The document of a telescope whose sections were accepted lacks nothing but numbers for its
pixels. -/
theorem document_of_accepted (hsections : ∀ s ∈ sections, s.Accepted) (hfield : field.Accepted)
    (h : Registry.ofSections sections (some field) = .ok r) (name : String)
    (ids : List (String × Int)) :
    ((∀ s ∈ sections, Countable s) → ∃ doc, (Document.ofRegistry name ids r).result = .ok doc) ∧
    ((∃ s ∈ sections, ¬ Countable s) →
      (Document.ofRegistry name ids r).result = .error (.number .outOfRange)) := by
  obtain ⟨hdetectors, hfields⟩ := Registry.ofSections_parts h
  constructor
  · intro hcount
    refine Tellable.document ⟨fun d hd => ?_, fun _ => ?_⟩ name ids
    · obtain ⟨s, hs, hbuilt⟩ := exists_of_mem_right hdetectors hd
      exact (hcount s hs).shaped (hsections s hs) hbuilt
    · obtain ⟨x, y, z, hvector⟩ := hfield
      rw [(MagneticField.ofSection_parts (hfields field rfl)).2, hvector]
      exact ⟨_, _, _, rfl⟩
  · intro hcount
    rw [Document.ofRegistry, parts_uncountable hsections hdetectors hcount ids]

theorem describe_ok (hsections : ∀ s ∈ sections, s.Accepted) (hfield : field.Accepted)
    (name : String) (ids : List (String × Int)) :
    (∃ doc, describe sections field name ids = .ok doc) ↔
      Geometry.Buildable sections field ∧ ∀ s ∈ sections, Countable s := by
  rw [← Registry.ofSections_ok_iff]
  constructor
  · rintro ⟨doc, h⟩
    obtain ⟨r, hr, hdoc⟩ := bind_eq_ok.mp h
    refine ⟨⟨r, hr⟩, ?_⟩
    by_contra hcount
    have hcount : ∃ s ∈ sections, ¬ Countable s := by
      simpa only [not_forall, exists_prop] using hcount
    cases ((document_of_accepted hsections hfield hr name ids).2 hcount).symm.trans hdoc
  · rintro ⟨⟨r, hr⟩, hcount⟩
    obtain ⟨doc, hdoc⟩ := (document_of_accepted hsections hfield hr name ids).1 hcount
    exact ⟨doc, bind_eq_ok.mpr ⟨r, hr, hdoc⟩⟩

theorem describe_error (hsections : ∀ s ∈ sections, s.Accepted) (hfield : field.Accepted)
    (hf : ∀ fault, f ≠ .configuration fault) (name : String) (ids : List (String × Int)) :
    describe sections field name ids = .error f ↔ Spoiled sections field f := by
  constructor
  · intro h
    rcases ofSections_cases sections field with ⟨r, hr⟩ | ⟨fault, hr⟩ | ⟨g, hr, hg⟩
    · have hdocument := document_of_accepted hsections hfield hr name ids
      rw [describe, bind_of_ok hr] at h
      by_cases hcount : ∀ s ∈ sections, Countable s
      · obtain ⟨doc, hdoc⟩ := hdocument.1 hcount
        cases hdoc.symm.trans h
      · have hcount : ∃ s ∈ sections, ¬ Countable s := by
          simpa only [not_forall, exists_prop] using hcount
        obtain rfl := Except.error.inj ((hdocument.2 hcount).symm.trans h)
        exact .pixels hr hcount
    · rw [describe, hr] at h
      exact absurd (Except.error.inj h).symm (hf fault)
    · rw [describe, hr] at h
      obtain rfl := Except.error.inj h
      exact hg
  · intro h
    cases h with
    | @orientation before after s rows hmem hbefore hs huneven =>
      have hall : sections.mapM Detector.ofSection = .error (.shape .ragged) := by
        rw [hmem]
        exact mapM_first_error hbefore (Detector.ofSection_uneven hs huneven)
      rw [describe, Registry.ofSections, hall]
      rfl
    | gradient hdetectors hkind huneven =>
      rw [describe, Registry.ofSections_eq hdetectors,
        MagneticField.ofSection_uneven hkind huneven]
      rfl
    | pixels hr hcount =>
      rw [describe, bind_of_ok hr, (document_of_accepted hsections hfield hr name ids).2 hcount]

/-- What the schema accepted is described where its parts can be built and its pixels counted. No
other error than that of a configuration leaves it, unless rows of different lengths or too many
pixels were accepted with it. -/
theorem accepted_configuration_described {fields : Config.Fields} {c : Config}
    (h : Config.check fields = .ok c) (name : String) (ids : List (String × Int)) :
    ((∃ doc, describe c.detectors c.field name ids = .ok doc) ↔
      Geometry.Buildable c.detectors c.field ∧ ∀ s ∈ c.detectors, Countable s) ∧
    ∀ f, (∀ fault, f ≠ .configuration fault) →
      (describe c.detectors c.field name ids = .error f ↔ Spoiled c.detectors c.field f) := by
  obtain ⟨hfield, hsections⟩ := Config.check_accepted h
  exact ⟨describe_ok hsections hfield name ids,
    fun f hf => describe_error hsections hfield hf name ids⟩

def oneDetector (detector : Config.Fields) (field : Config.Fields) : Config.Fields :=
  [("field", .table field),
    ("detectors", .list [.table ([("name", .text "plane"),
      ("position", .list [.float 0.0, .float 0.0, .float 0.0])] ++ detector)])]

def unevenRows : Value := .list [.list [.float 1.0], .list [.float 1.0, .float 2.0]]

theorem accepted_configuration_described_gradient :
    ∃ c, Config.check (oneDetector [] [("gradient", unevenRows)]) = .ok c ∧
      (∀ fault, Failure.shape .ragged ≠ .configuration fault) ∧
      describe c.detectors c.field "telescope" [] = .error (.shape .ragged) := by
  have hcheck : Config.check (oneDetector [] [("gradient", unevenRows)]) = .ok _ := rfl
  refine ⟨_, hcheck, by simp, ?_⟩
  refine ((accepted_configuration_described hcheck "telescope" []).2 _ (by simp)).mpr ?_
  refine .gradient rfl (by simp) ?_
  intro heven
  obtain ⟨n, hn⟩ := heven _ rfl
  have hfirst := hn [1.0] (by simp)
  have hsecond := hn [1.0, 2.0] (by simp)
  rw [← hfirst] at hsecond
  cases hsecond

/-- An orientation that is no array is accepted, and then refused as something else than a
configuration. -/
theorem uneven_orientation_escapes :
    ∃ c, Config.check (oneDetector [("orientation", unevenRows)] []) = .ok c ∧
      ∀ name ids, (∀ doc, describe c.detectors c.field name ids ≠ .ok doc) ∧
        ∀ fault, describe c.detectors c.field name ids ≠ .error (.configuration fault) := by
  have hcheck : Config.check (oneDetector [("orientation", unevenRows)] []) = .ok _ := rfl
  refine ⟨_, hcheck, fun name ids => ?_⟩
  constructor
  · intro doc h
    cases h
  · intro fault h
    cases h

end PixelTelescope.Gear
