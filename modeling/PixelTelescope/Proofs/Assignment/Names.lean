import PixelTelescope.Assignment.Resolve
import PixelTelescope.Proofs.Keyed
import PixelTelescope.Proofs.Outcome

namespace PixelTelescope.Assignment

structure WellNamed (a : Assignment) : Prop where
  valid : ∀ name ∈ a.names, isCollectionName name = true
  distinct : a.names.Nodup

theorem checkName_ok {name checked : String} :
    checkName name = .ok checked ↔ isCollectionName name = true ∧ checked = name := by
  unfold checkName
  split
  · rename_i h
    simp [h, eq_comm]
  · rename_i h
    simp [h]

theorem uniform_wellNamed {detectors : List String} {collection : String} {source : Source}
    {a : Assignment} (h : uniform detectors collection source = .ok a) : a.WellNamed := by
  obtain ⟨name, hname, ha⟩ := bind_eq_ok.mp h
  obtain ⟨hvalid, rfl⟩ := checkName_ok.mp hname
  obtain rfl := Except.ok.inj ha
  constructor
  · intro n hn
    simp only at hn
    split at hn
    · simp at hn
    · rwa [List.mem_singleton.mp hn]
  · dsimp only
    split <;> simp

theorem addName_wellNamed {a : Assignment} (h : a.WellNamed) {name : String}
    (hvalid : isCollectionName name = true) :
    (∀ n ∈ addName name a.names, isCollectionName n = true) ∧ (addName name a.names).Nodup := by
  unfold addName
  split
  · exact ⟨h.valid, h.distinct⟩
  · rename_i hnew
    constructor
    · intro n hn
      rcases List.mem_append.mp hn with hn | hn
      · exact h.valid n hn
      · rwa [List.mem_singleton.mp hn]
    · rw [List.nodup_append]
      refine ⟨h.distinct, by simp, ?_⟩
      rintro n hn m hm rfl
      rw [List.mem_singleton.mp hm] at hn
      exact hnew (List.contains_iff_mem.mpr hn)

/-- What a row has to be, and what it adds to an assignment. -/
theorem addEntry_ok_iff {detectors : List String} {a a' : Assignment} {index : Nat}
    {first second : Value} {third : Option Value} :
    addEntry detectors a index first second third = .ok a' ↔
      isCollectionName second.display = true ∧ first.display ∈ detectors ∧
        first.display ∉ Keyed.keys a.collections ∧
        ∃ id, rowSensorId index first.display third = .ok id ∧ id ∉ a.sensorIds.map (·.2) ∧
          a' = {
            collections := Keyed.put first.display second.display a.collections
            sensorIds := Keyed.put first.display id a.sensorIds
            names := addName second.display a.names
            source := .long } := by
  rw [addEntry, bind_eq_ok]
  simp only [checkName_ok]
  constructor
  · rintro ⟨name, ⟨hname, rfl⟩, h⟩
    split at h
    · contradiction
    · rename_i hlisted
      split at h
      · contradiction
      · rename_i hnew
        obtain ⟨id, hid, h⟩ := bind_eq_ok.mp h
        split at h
        · contradiction
        · rename_i hapart
          refine ⟨hname, by simpa using hlisted, ?_, id, hid, by simpa using hapart, ?_⟩
          · rwa [Keyed.contains_iff] at hnew
          · exact (Except.ok.inj h).symm
  · rintro ⟨hname, hlisted, hnew, id, hid, hapart, rfl⟩
    refine ⟨_, ⟨hname, rfl⟩, ?_⟩
    rw [if_neg (by simpa using hlisted), if_neg (by rwa [Keyed.contains_iff]), hid]
    exact if_neg (by simpa using hapart)

/-- What every row keeps, all rows keep. -/
theorem addRows_keeps {detectors : List String} {P : Assignment → Prop}
    (hstep : ∀ a a' index first second third, P a →
      addEntry detectors a index first second third = .ok a' → P a')
    {rows : List Value} {a a' : Assignment} {index : Nat} (ha : P a)
    (h : addRows detectors a index rows = .ok a') : P a' := by
  induction rows generalizing a index with
  | nil => exact Except.ok.inj h ▸ ha
  | cons row rest ih =>
    obtain ⟨a₁, h₁, h⟩ := bind_eq_ok.mp h
    refine ih ?_ h
    unfold addRow at h₁
    split at h₁
    · contradiction
    · exact hstep _ _ _ _ _ _ ha h₁
    · exact hstep _ _ _ _ _ _ ha h₁
    · contradiction

theorem addEntry_wellNamed {detectors : List String} {a a' : Assignment} {index : Nat}
    {first second : Value} {third : Option Value} (ha : a.WellNamed)
    (h : addEntry detectors a index first second third = .ok a') : a'.WellNamed := by
  obtain ⟨hvalid, -, -, id, -, -, rfl⟩ := addEntry_ok_iff.mp h
  obtain ⟨hv, hd⟩ := addName_wellNamed ha hvalid
  exact ⟨hv, hd⟩

/-- Rows that are accepted have all been added, and leave no detector out. -/
theorem fromRows_ok {detectors : List String} {rows : Value} {a : Assignment}
    (h : fromRows detectors rows = .ok a) :
    ∃ list, rows.items? = some list ∧ addRows detectors empty 0 list = .ok a ∧
      ∀ d ∈ detectors, Keyed.contains d a.collections = true := by
  unfold fromRows at h
  split at h
  · rename_i list hlist
    obtain ⟨a₁, h₁, h⟩ := bind_eq_ok.mp h
    dsimp only at h
    split at h
    · rename_i hmissing
      obtain rfl := Except.ok.inj h
      refine ⟨list, hlist, h₁, fun d hd => ?_⟩
      have hnone := List.filter_eq_nil_iff.mp (List.isEmpty_iff.mp hmissing) d hd
      simpa using hnone
    · contradiction
  · contradiction

theorem fromRows_wellNamed {detectors : List String} {rows : Value} {a : Assignment}
    (h : fromRows detectors rows = .ok a) : a.WellNamed := by
  obtain ⟨list, -, hrows, -⟩ := fromRows_ok h
  exact addRows_keeps (fun _ _ _ _ _ _ => addEntry_wellNamed) ⟨by simp [empty], by simp [empty]⟩
    hrows

/-- Whatever style of configuration an assignment is resolved from, its collections can be told
apart and each stands as one step of a path. -/
theorem Request.resolve_wellNamed {r : Request} {a : Assignment} (h : r.resolve = .ok a) :
    a.WellNamed := by
  unfold Request.resolve at h
  split at h
  · exact uniform_wellNamed h
  · exact fromRows_wellNamed h
  · exact uniform_wellNamed h

theorem Request.logged_result (r : Request) : r.logged.result = r.resolve := by
  unfold logged
  cases r.resolve <;> rfl

end PixelTelescope.Assignment
