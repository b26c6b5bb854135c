import PixelTelescope.Proofs.Assignment.Coverage
import PixelTelescope.Proofs.Distinct

namespace PixelTelescope.Assignment

/-- What a row of a table says: where the hits of a detector go, and under which number. -/
structure Placing where
  detector : String
  collection : String
  id : Int

/-- The sensor ID of a row of texts: its third text read as an integer, or else its place in the
table. -/
def givenId (index : Nat) (row : List String) : Option Int :=
  match row[2]? with
  | some text => Text.readInt text
  | none => some index

structure Says (index : Nat) (row : List String) (p : Placing) : Prop where
  length : row.length = 2 ∨ row.length = 3
  detector : row[0]? = some p.detector
  collection : row[1]? = some p.collection
  id : givenId index row = some p.id

structure Sound (detectors : List String) (ps : List Placing) : Prop where
  named : ∀ p ∈ ps, isCollectionName p.collection = true
  listed : ∀ p ∈ ps, p.detector ∈ detectors
  once : (ps.map (·.detector)).Nodup
  apart : (ps.map (·.id)).Nodup

def chart (ps : List Placing) : Assignment where
  collections := ps.map fun p => (p.detector, p.collection)
  sensorIds := ps.map fun p => (p.detector, p.id)
  names := (ps.map (·.collection)).eraseDups
  source := .long

variable {detectors : List String} {ps qs : List Placing} {p : Placing} {a : Assignment}
  {index : Nat} {row : List String} {table : List (List String)}

@[simp] theorem keys_chart_collections (ps : List Placing) :
    Keyed.keys (chart ps).collections = ps.map (·.detector) := by
  simp [chart, Keyed.keys, Function.comp_def]

@[simp] theorem keys_chart_sensorIds (ps : List Placing) :
    Keyed.keys (chart ps).sensorIds = ps.map (·.detector) := by
  simp [chart, Keyed.keys, Function.comp_def]

@[simp] theorem chart_ids (ps : List Placing) :
    (chart ps).sensorIds.map (·.2) = ps.map (·.id) := by
  simp [chart, Function.comp_def]

theorem Sound.collectionFor_iff (h : Sound detectors ps) {d name : String} :
    (chart ps).collectionFor d = .ok name ↔ ∃ p ∈ ps, p.detector = d ∧ p.collection = name := by
  rw [collectionFor_ok, Keyed.get?_eq_some_iff (by simpa using h.once)]
  simp [chart]

theorem Sound.sensorIdFor_iff (h : Sound detectors ps) {d : String} {id : Int} :
    (chart ps).sensorIdFor d = .ok id ↔ ∃ p ∈ ps, p.detector = d ∧ p.id = id := by
  rw [sensorIdFor_ok, Keyed.get?_eq_some_iff (by simpa using h.once)]
  simp [chart]

theorem Sound.of_append (h : Sound detectors (ps ++ qs)) : Sound detectors ps := by
  refine ⟨fun p hp => h.named p (List.mem_append_left _ hp),
    fun p hp => h.listed p (List.mem_append_left _ hp), ?_, ?_⟩
  · exact h.once.sublist ((List.sublist_append_left ps qs).map _)
  · exact h.apart.sublist ((List.sublist_append_left ps qs).map _)

/-- One more placing is sound beside sound ones if its own name is, and if neither its detector nor
its number has come before. -/
theorem Sound.snoc_iff (h : Sound detectors ps) : Sound detectors (ps ++ [p]) ↔
    isCollectionName p.collection = true ∧ p.detector ∈ detectors ∧
      p.detector ∉ ps.map (·.detector) ∧ p.id ∉ ps.map (·.id) := by
  have hnew {β : Type} (f : Placing → β) (hd : (ps.map f).Nodup) :
      ((ps ++ [p]).map f).Nodup ↔ f p ∉ ps.map f := by
    rw [List.map_append, List.map_singleton, List.nodup_append']
    simp [hd]
  constructor
  · intro hs
    exact ⟨hs.named p (by simp), hs.listed p (by simp), (hnew _ h.once).mp hs.once,
      (hnew _ h.apart).mp hs.apart⟩
  · rintro ⟨hname, hlisted, honce, hapart⟩
    refine ⟨?_, ?_, (hnew _ h.once).mpr honce, (hnew _ h.apart).mpr hapart⟩
    · intro q hq
      rcases List.mem_append.mp hq with hq | hq
      · exact h.named q hq
      · exact List.mem_singleton.mp hq ▸ hname
    · intro q hq
      rcases List.mem_append.mp hq with hq | hq
      · exact h.listed q hq
      · exact List.mem_singleton.mp hq ▸ hlisted

theorem addName_eraseDups (name : String) (names : List String) :
    addName name names.eraseDups = (names ++ [name]).eraseDups := by
  rw [List.eraseDups_append, addName]
  by_cases h : name ∈ names
  · simp [h, List.removeAll]
  · simp [h, List.removeAll, List.eraseDups_cons]

theorem chart_snoc (h : p.detector ∉ ps.map (·.detector)) :
    { collections := Keyed.put p.detector p.collection (chart ps).collections
      sensorIds := Keyed.put p.detector p.id (chart ps).sensorIds
      names := addName p.collection (chart ps).names
      source := .long } = chart (ps ++ [p]) := by
  rw [Keyed.put_of_not_mem _ (by simpa using h), Keyed.put_of_not_mem _ (by simpa using h)]
  simp [chart, addName_eraseDups]

/-- A row of two or three texts is an entry of them; any other is refused. -/
theorem addRow_texts (detectors : List String) (a : Assignment) (index : Nat) (row : List String) :
    (∃ d c, row[0]? = some d ∧ row[1]? = some c ∧ (row.length = 2 ∨ row.length = 3) ∧
      addRow detectors a index (.texts row) =
        addEntry detectors a index (.text d) (.text c) (row[2]?.map .text)) ∨
    (¬ (row.length = 2 ∨ row.length = 3) ∧
      ∃ fault, addRow detectors a index (.texts row) = .error (.configuration fault)) := by
  match row with
  | [] => exact .inr ⟨by simp, _, rfl⟩
  | [d] => exact .inr ⟨by simp, _, rfl⟩
  | [d, c] => exact .inl ⟨d, c, rfl, rfl, by simp, rfl⟩
  | [d, c, id] => exact .inl ⟨d, c, rfl, rfl, by simp, rfl⟩
  | d :: c :: id :: more :: rest => exact .inr ⟨by simp, _, rfl⟩

theorem rowSensorId_texts (index : Nat) (detector : String) (row : List String) :
    (∀ id, rowSensorId index detector (row[2]?.map .text) = .ok id ↔ givenId index row = some id) ∧
      ∀ f, rowSensorId index detector (row[2]?.map .text) = .error f →
        ∃ fault, f = .configuration fault := by
  unfold rowSensorId givenId
  cases row[2]? with
  | none => simp
  | some text =>
    simp only [Option.map_some, Value.reading, Reading.toInt]
    cases Text.readInt text with
    | some id => simp
    | none => simp [eq_comm]

theorem addRow_ok_iff (h : Sound detectors ps) :
    addRow detectors (chart ps) index (.texts row) = .ok a ↔
      ∃ p, Says index row p ∧ Sound detectors (ps ++ [p]) ∧ a = chart (ps ++ [p]) := by
  rcases addRow_texts detectors (chart ps) index row with
    ⟨d, c, hd, hc, hlength, hrow⟩ | ⟨hlength, fault, hrow⟩
  · rw [hrow, addEntry_ok_iff, keys_chart_collections, chart_ids]
    constructor
    · rintro ⟨hname, hlisted, honce, id, hid, hapart, rfl⟩
      have hsaid : Says index row ⟨d, c, id⟩ :=
        ⟨hlength, hd, hc, ((rowSensorId_texts index d row).1 id).mp hid⟩
      exact ⟨_, hsaid, h.snoc_iff.mpr ⟨hname, hlisted, honce, hapart⟩,
        chart_snoc (p := ⟨d, c, id⟩) honce⟩
    · rintro ⟨⟨d', c', id⟩, hsaid, hsound, rfl⟩
      obtain rfl : d = d' := Option.some.inj (hd.symm.trans hsaid.detector)
      obtain rfl : c = c' := Option.some.inj (hc.symm.trans hsaid.collection)
      obtain ⟨hname, hlisted, honce, hapart⟩ := h.snoc_iff.mp hsound
      exact ⟨hname, hlisted, honce, id, ((rowSensorId_texts index d row).1 id).mpr hsaid.id, hapart,
        (chart_snoc honce).symm⟩
  · rw [hrow]
    constructor
    · intro hok
      contradiction
    · rintro ⟨p, hsaid, -⟩
      exact absurd hsaid.length hlength

theorem addEntry_error {first second : Value} {third : Option Value} {f : Failure}
    (hid : ∀ f, rowSensorId index first.display third = .error f → ∃ fault, f = .configuration fault)
    (h : addEntry detectors a index first second third = .error f) :
    ∃ fault, f = .configuration fault := by
  unfold addEntry checkName at h
  split at h
  · dsimp only [bind, Except.bind] at h
    split at h
    · exact ⟨_, (Except.error.inj h).symm⟩
    · split at h
      · exact ⟨_, (Except.error.inj h).symm⟩
      · split at h
        · rename_i hf
          exact Except.error.inj h ▸ hid _ hf
        · split at h
          · exact ⟨_, (Except.error.inj h).symm⟩
          · contradiction
  · exact ⟨_, (Except.error.inj h).symm⟩

/-- Whatever is wrong with a row of texts, the configuration is to blame. -/
theorem addRow_error {f : Failure} (h : addRow detectors a index (.texts row) = .error f) :
    ∃ fault, f = .configuration fault := by
  rcases addRow_texts detectors a index row with ⟨d, c, -, -, -, hrow⟩ | ⟨-, fault, hrow⟩
  · exact addEntry_error (rowSensorId_texts index d row).2 (hrow ▸ h)
  · exact ⟨fault, Except.error.inj (h.symm.trans hrow)⟩

def Tells (index : Nat) (table : List (List String)) (ps : List Placing) : Prop :=
  List.Forall₂ (fun (row : List String × Nat) p => Says row.2 row.1 p) (table.zipIdx index) ps

/-- A table is added as far as its placings are sound beside those that stand. -/
theorem addRows_ok_iff (h : Sound detectors ps) :
    addRows detectors (chart ps) index (table.map .texts) = .ok a ↔
      ∃ qs, Tells index table qs ∧ Sound detectors (ps ++ qs) ∧ a = chart (ps ++ qs) := by
  induction table generalizing ps index with
  | nil => simp [addRows, Tells, h, eq_comm]
  | cons row rest ih =>
    rw [List.map_cons, addRows, bind_eq_ok]
    constructor
    · rintro ⟨a₁, h₁, h₂⟩
      obtain ⟨p, hsaid, hsound, rfl⟩ := (addRow_ok_iff h).mp h₁
      obtain ⟨qs, htells, hall, rfl⟩ := (ih hsound).mp h₂
      rw [List.append_assoc, List.singleton_append] at hall ⊢
      exact ⟨p :: qs, .cons hsaid htells, hall, rfl⟩
    · rintro ⟨qs, htells, hall, rfl⟩
      obtain ⟨p, qs, hsaid, hrest, rfl⟩ := List.forall₂_cons_left_iff.mp htells
      have htells : Tells (index + 1) rest qs := hrest
      have hsplit : ps ++ p :: qs = (ps ++ [p]) ++ qs := by simp
      rw [hsplit] at hall
      have hsound := hall.of_append
      exact ⟨chart (ps ++ [p]), (addRow_ok_iff h).mpr ⟨p, hsaid, hsound, rfl⟩,
        (ih hsound).mpr ⟨qs, htells, hall, congrArg chart hsplit⟩⟩

theorem addRows_error {f : Failure}
    (h : addRows detectors a index (table.map .texts) = .error f) :
    ∃ fault, f = .configuration fault := by
  induction table generalizing a index with
  | nil => contradiction
  | cons row rest ih =>
    rw [List.map_cons, addRows] at h
    cases hrow : addRow detectors a index (.texts row) with
    | error g =>
      rw [hrow] at h
      exact addRow_error (hrow.trans h)
    | ok a₁ =>
      rw [bind_of_ok hrow] at h
      exact ih h

end PixelTelescope.Assignment
