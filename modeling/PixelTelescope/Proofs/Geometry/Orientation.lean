import PixelTelescope.Geometry.Configured
import PixelTelescope.Proofs.Config.Accepted
import PixelTelescope.Proofs.Gear.Layers
import PixelTelescope.Proofs.Outcome

namespace PixelTelescope

def Even {α : Type} (rows : List (List α)) : Prop := ∃ n, ∀ row ∈ rows, row.length = n

section Rows

variable {α : Type} {rows : List (List α)}

theorem even_cons {row : List α} {rest : List (List α)} :
    Even (row :: rest) ↔ (rest.all fun other => other.length = row.length) = true := by
  rw [List.all_eq_true]
  constructor
  · rintro ⟨n, h⟩ other hother
    rw [decide_eq_true_eq, h row List.mem_cons_self, h other (List.mem_cons_of_mem _ hother)]
  · intro h
    refine ⟨row.length, fun other hother => ?_⟩
    rcases List.mem_cons.mp hother with rfl | hother
    · rfl
    · exact decide_eq_true_eq.mp (h other hother)

theorem Tensor.ofRows_of_even (h : Even rows) : ∃ t, Tensor.ofRows rows = .ok t := by
  cases rows with
  | nil => exact ⟨_, rfl⟩
  | cons row rest => exact ⟨_, if_pos (even_cons.mp h)⟩

theorem Tensor.ofRows_of_uneven (h : ¬ Even rows) : Tensor.ofRows rows = .error .ragged := by
  cases rows with
  | nil => exact absurd ⟨0, by simp⟩ h
  | cons row rest => exact if_neg (mt even_cons.mpr h)

end Rows

def Config.FieldSection.Even {α : Type} (s : Config.FieldSection α) : Prop :=
  ∀ rows, s.gradient = some rows → PixelTelescope.Even rows

namespace Geometry

open Config (DetectorSection FieldSection)

variable {α : Type} [Scalar α] {s : FieldSection α} {a b c : α}

theorem Detector.ofSection_name {s : DetectorSection α} {d : Detector α}
    (h : Detector.ofSection s = .ok d) : d.name = s.name := by
  obtain ⟨orientation, -, h⟩ := bind_eq_ok.mp h
  obtain rfl := Except.ok.inj h
  rfl

theorem Detector.ofSection_angles {s : DetectorSection α} (h : s.orientation = .angles [a, b, c]) :
    Detector.ofSection s = .ok {
      name := s.name
      model := .ofSection s
      position := .vector (s.position.map Measure.mm.inward)
      orientation := (rotationMatrix (Measure.deg.inward a) (Measure.deg.inward b)
        (Measure.deg.inward c)).toTensor } := by
  simp only [Detector.ofSection, orientationOf, h]
  rfl

theorem MagneticField.ofSection_even (hkind : s.kind ≠ .custom) (h : s.Even) :
    ∃ field, MagneticField.ofSection s = .ok field ∧ field.kind = s.kind ∧
      field.base = .vector (s.vector.map Measure.T.inward) := by
  rw [MagneticField.ofSection, if_neg hkind]
  cases hgradient : s.gradient with
  | none => exact ⟨_, rfl, rfl, rfl⟩
  | some rows =>
    obtain ⟨t, ht⟩ := Tensor.ofRows_of_even (h rows hgradient)
    simp only [ht]
    exact ⟨_, rfl, rfl, rfl⟩

/-- The rows of a gradient are looked at for every kind of field. -/
theorem MagneticField.ofSection_uneven (hkind : s.kind ≠ .custom) (h : ¬ s.Even) :
    MagneticField.ofSection s = .error (.shape .ragged) := by
  obtain ⟨rows, hgradient, hrows⟩ :
      ∃ rows, s.gradient = some rows ∧ ¬ PixelTelescope.Even rows := by
    simpa [FieldSection.Even] using h
  rw [MagneticField.ofSection, if_neg hkind, hgradient]
  simp only [Tensor.ofRows_of_uneven hrows]
  rfl

/-- The field is looked at after the detectors, and their names after both. -/
theorem Registry.ofSections_eq {sections : List (DetectorSection α)} {detectors : List (Detector α)}
    (h : sections.mapM Detector.ofSection = .ok detectors) :
    Registry.ofSections sections (some s) =
      MagneticField.ofSection s >>= Registry.ofDetectors detectors := by
  rw [ofSections, bind_of_ok h]

end Geometry

end PixelTelescope

namespace PixelTelescope.Geometry

open Config (DetectorSection FieldSection Orientation)

variable {α : Type}

@[simp] theorem Mat3.ofTensor_toTensor (m : Mat3 α) : Mat3.ofTensor m.toTensor = .ok m := rfl

/-- Three rows of three are a matrix. -/
theorem exists_matrix {rows : List (List α)} {t : Tensor α} (h : Tensor.ofRows rows = .ok t)
    (hsizes : t.sizes = [3, 3]) : ∃ m : Mat3 α, rows = m.toLists ∧ t = m.toTensor := by
  cases rows with
  | nil =>
    obtain rfl := Except.ok.inj h
    cases hsizes
  | cons row rest =>
    rw [Tensor.ofRows] at h
    split at h
    · rename_i hall
      obtain rfl := Except.ok.inj h
      simp only [List.length_cons, List.cons.injEq, and_true] at hsizes
      obtain ⟨hrest, hrow⟩ := hsizes
      obtain ⟨second, third, rfl⟩ := List.length_eq_two.mp (Nat.succ.inj hrest)
      simp only [List.all_cons, List.all_nil, Bool.and_true, Bool.and_eq_true, decide_eq_true_eq,
        hrow] at hall
      obtain ⟨xx, xy, xz, rfl⟩ := List.length_eq_three.mp hrow
      obtain ⟨yx, yy, yz, rfl⟩ := List.length_eq_three.mp hall.1
      obtain ⟨zx, zy, zz, rfl⟩ := List.length_eq_three.mp hall.2
      exact ⟨⟨⟨xx, xy, xz⟩, ⟨yx, yy, yz⟩, ⟨zx, zy, zz⟩⟩, rfl, rfl⟩
    · contradiction

/-- Rows have two axes, or no entry at all. -/
theorem ofRows_sizes {rows : List (List α)} {t : Tensor α} (h : Tensor.ofRows rows = .ok t) :
    t.sizes ≠ [3] := by
  cases rows with
  | nil =>
    obtain rfl := Except.ok.inj h
    simp
  | cons row rest =>
    rw [Tensor.ofRows] at h
    split at h
    · obtain rfl := Except.ok.inj h
      simp
    · contradiction

variable [Scalar α]

/-- Angles are turned into a matrix, or refused where there are not three of them. -/
theorem orientationOf_angles (list : List α) :
    (∃ a b c, list = [a, b, c] ∧ orientationOf (.angles list) = .ok (rotationMatrix
      (Measure.deg.inward a) (Measure.deg.inward b) (Measure.deg.inward c)).toTensor) ∨
    orientationOf (.angles list) = .error (.configuration (.orientationShape [list.length])) := by
  rcases list with _ | ⟨a, _ | ⟨b, _ | ⟨c, _ | ⟨d, rest⟩⟩⟩⟩
  · exact .inr rfl
  · exact .inr rfl
  · exact .inr rfl
  · exact .inl ⟨a, b, c, rfl, rfl⟩
  · exact .inr rfl

/-- A matrix stays as it is where it is a proper rotation. -/
theorem orientationOf_matrix (rows : List (List α)) :
    (∃ m, rows = m.toLists ∧ isRotation 1e-6 m = true ∧
      orientationOf (.matrix rows) = .ok m.toTensor) ∨
    (∃ fault, orientationOf (.matrix rows) = .error (.configuration fault)) ∨
    ¬ Even rows ∧ orientationOf (.matrix rows) = .error (.shape .ragged) := by
  by_cases heven : Even rows
  · obtain ⟨t, ht⟩ := Tensor.ofRows_of_even heven
    have hgiven : (liftM (Tensor.ofRows rows) : Except Failure (Tensor α)) = .ok t := by
      rw [ht]
      rfl
    unfold orientationOf
    dsimp only
    rw [bind_of_ok hgiven]
    split
    · rename_i hsizes _
      exact absurd hsizes (ofRows_sizes ht)
    · rename_i hsizes
      obtain ⟨m, hrows, rfl⟩ := exists_matrix ht hsizes
      rw [bind_of_ok m.ofTensor_toTensor]
      split
      · rename_i hproper
        exact .inl ⟨m, hrows, hproper, rfl⟩
      · exact .inr (.inl ⟨_, rfl⟩)
    · exact .inr (.inl ⟨_, rfl⟩)
  · refine .inr (.inr ⟨heven, ?_⟩)
    simp only [orientationOf, Tensor.ofRows_of_uneven heven]
    rfl

theorem orientationOf_cases (o : Orientation α) :
    (∃ m : Mat3 α, orientationOf o = .ok m.toTensor) ∨
    (∃ fault, orientationOf o = .error (.configuration fault)) ∨
    ∃ rows, o = .matrix rows ∧ ¬ Even rows ∧ orientationOf o = .error (.shape .ragged) := by
  cases o with
  | angles list =>
    rcases orientationOf_angles list with ⟨a, b, c, -, h⟩ | h
    · exact .inl ⟨_, h⟩
    · exact .inr (.inl ⟨_, h⟩)
  | matrix rows =>
    rcases orientationOf_matrix rows with ⟨m, -, -, h⟩ | ⟨fault, h⟩ | ⟨huneven, h⟩
    · exact .inl ⟨m, h⟩
    · exact .inr (.inl ⟨fault, h⟩)
    · exact .inr (.inr ⟨rows, rfl, huneven, h⟩)

inductive Turnable : Orientation α → Prop
  | angles (a b c : α) : Turnable (.angles [a, b, c])
  | matrix {m : Mat3 α} (h : isRotation 1e-6 m = true) : Turnable (.matrix m.toLists)

theorem turnable_iff {o : Orientation α} : Turnable o ↔ ∃ t, orientationOf o = .ok t := by
  constructor
  · intro h
    cases h with
    | angles a b c => exact ⟨_, rfl⟩
    | @matrix m h => exact ⟨m.toTensor, if_pos h⟩
  · rintro ⟨t, ht⟩
    cases o with
    | angles list =>
      rcases orientationOf_angles list with ⟨a, b, c, rfl, -⟩ | h
      · exact .angles a b c
      · cases h.symm.trans ht
    | matrix rows =>
      rcases orientationOf_matrix rows with ⟨m, rfl, hm, -⟩ | ⟨fault, h⟩ | ⟨-, h⟩
      · exact .matrix hm
      · cases h.symm.trans ht
      · cases h.symm.trans ht

theorem Detector.ofSection_eq (s : DetectorSection α) :
    Detector.ofSection s = (orientationOf s.orientation).map fun orientation => {
      name := s.name
      model := .ofSection s
      position := .vector (s.position.map Measure.mm.inward)
      orientation } := by
  rw [Detector.ofSection]
  cases orientationOf s.orientation <;> rfl

theorem Detector.ofSection_parts {s : DetectorSection α} {d : Detector α}
    (h : Detector.ofSection s = .ok d) : d.model = .ofSection s ∧
      d.position = .vector (s.position.map Measure.mm.inward) ∧
      orientationOf s.orientation = .ok d.orientation := by
  rw [Detector.ofSection_eq] at h
  obtain ⟨orientation, ho, rfl⟩ := map_eq_ok.mp h
  exact ⟨rfl, rfl, ho⟩

theorem Detector.ofSection_ok_iff {s : DetectorSection α} :
    (∃ d, Detector.ofSection s = .ok d) ↔ Turnable s.orientation := by
  rw [turnable_iff, Detector.ofSection_eq]
  constructor
  · rintro ⟨d, hd⟩
    obtain ⟨t, ht, -⟩ := map_eq_ok.mp hd
    exact ⟨t, ht⟩
  · rintro ⟨t, ht⟩
    exact ⟨_, map_eq_ok.mpr ⟨t, ht, rfl⟩⟩

/-- A detector that was built is turned by a matrix; nothing but rows of different lengths fails
otherwise than as a configuration. -/
theorem Detector.ofSection_cases (s : DetectorSection α) :
    (∃ d m, Detector.ofSection s = .ok d ∧ d.orientation = Mat3.toTensor m) ∨
    (∃ fault, Detector.ofSection s = .error (.configuration fault)) ∨
    ∃ rows, s.orientation = .matrix rows ∧ ¬ Even rows ∧
      Detector.ofSection s = .error (.shape .ragged) := by
  rw [Detector.ofSection_eq]
  rcases orientationOf_cases s.orientation with ⟨m, h⟩ | ⟨fault, h⟩ | ⟨rows, ho, huneven, h⟩
  · rw [h]
    exact .inl ⟨_, m, rfl, rfl⟩
  · rw [h]
    exact .inr (.inl ⟨fault, rfl⟩)
  · rw [h]
    exact .inr (.inr ⟨rows, ho, huneven, rfl⟩)

theorem Detector.ofSection_uneven {s : DetectorSection α} {rows : List (List α)}
    (hs : s.orientation = .matrix rows) (huneven : ¬ Even rows) :
    Detector.ofSection s = .error (.shape .ragged) := by
  simp only [Detector.ofSection, orientationOf, hs, Tensor.ofRows_of_uneven huneven]
  rfl

/-- A telescope that was built has one detector for each section, and the field of its section. -/
theorem Registry.ofSections_parts {sections : List (DetectorSection α)}
    {field : Option (FieldSection α)} {r : Registry α}
    (h : Registry.ofSections sections field = .ok r) :
    List.Forall₂ (fun s d => Detector.ofSection s = .ok d) sections r.detectors ∧
      ∀ s, field = some s → MagneticField.ofSection s = .ok r.field := by
  obtain ⟨detectors, hdetectors, h⟩ := bind_eq_ok.mp h
  have hall := mapM_eq_ok.mp hdetectors
  cases field with
  | none =>
    obtain ⟨rfl, -⟩ := Registry.ofDetectors_eq_ok.mp h
    exact ⟨hall, fun s hs => by contradiction⟩
  | some s =>
    obtain ⟨told, htold, h⟩ := bind_eq_ok.mp h
    obtain ⟨rfl, -⟩ := Registry.ofDetectors_eq_ok.mp h
    refine ⟨hall, fun s' hs => ?_⟩
    rwa [← Option.some.inj hs]

theorem MagneticField.ofSection_ok_iff {s : FieldSection α} :
    (∃ b, MagneticField.ofSection s = .ok b) ↔ s.kind ≠ .custom ∧ s.Even := by
  constructor
  · rintro ⟨b, hb⟩
    have hkind : s.kind ≠ .custom := by
      intro hkind
      rw [MagneticField.ofSection, if_pos hkind] at hb
      contradiction
    refine ⟨hkind, ?_⟩
    by_contra huneven
    rw [MagneticField.ofSection_uneven hkind huneven] at hb
    contradiction
  · rintro ⟨hkind, heven⟩
    obtain ⟨b, hb, -⟩ := MagneticField.ofSection_even hkind heven
    exact ⟨b, hb⟩

theorem MagneticField.ofSection_parts {s : FieldSection α} {b : MagneticField α}
    (h : MagneticField.ofSection s = .ok b) :
    b.kind = s.kind ∧ b.base = .vector (s.vector.map Measure.T.inward) := by
  obtain ⟨hkind, heven⟩ := MagneticField.ofSection_ok_iff.mp ⟨b, h⟩
  obtain ⟨b', hb, hparts⟩ := MagneticField.ofSection_even hkind heven
  obtain rfl := Except.ok.inj (hb.symm.trans h)
  exact hparts

structure Buildable (sections : List (DetectorSection α)) (field : FieldSection α) : Prop where
  orientations : ∀ s ∈ sections, Turnable s.orientation
  names : (sections.map (·.name)).Nodup
  kind : field.kind ≠ .custom
  gradient : field.Even

theorem Registry.ofSections_ok_iff {sections : List (DetectorSection α)} {field : FieldSection α} :
    (∃ r, Registry.ofSections sections (some field) = .ok r) ↔ Buildable sections field := by
  have hnames {detectors : List (Detector α)}
      (h : List.Forall₂ (fun s d => Detector.ofSection s = .ok d) sections detectors) :
      sections.map (·.name) = detectors.map (·.name) :=
    map_eq_of_forall₂ h fun _ _ h => (Detector.ofSection_name h).symm
  constructor
  · rintro ⟨r, hr⟩
    obtain ⟨hdetectors, hfield⟩ := Registry.ofSections_parts hr
    obtain ⟨hkind, heven⟩ := MagneticField.ofSection_ok_iff.mp ⟨_, hfield field rfl⟩
    refine ⟨fun s hs => ?_, ?_, hkind, heven⟩
    · obtain ⟨d, -, hd⟩ := exists_of_mem_right hdetectors.flip hs
      exact Detector.ofSection_ok_iff.mp ⟨d, hd⟩
    · rw [hnames hdetectors]
      obtain ⟨detectors, -, hr⟩ := bind_eq_ok.mp hr
      obtain ⟨told, -, hr⟩ := bind_eq_ok.mp hr
      exact (Registry.ofDetectors_eq_ok.mp hr).2
  · rintro ⟨horientations, hdistinct, hkind, heven⟩
    obtain ⟨detectors, hall⟩ := exists_forall₂ fun s hs =>
      Detector.ofSection_ok_iff.mpr (horientations s hs)
    obtain ⟨told, htold⟩ := MagneticField.ofSection_ok_iff.mpr ⟨hkind, heven⟩
    refine ⟨⟨detectors, told⟩, ?_⟩
    rw [Registry.ofSections_eq (mapM_eq_ok.mpr hall), bind_of_ok htold]
    refine Registry.ofDetectors_eq_ok.mpr ⟨rfl, ?_⟩
    rwa [Registry.names, ← hnames hall]

end PixelTelescope.Geometry
