import Mathlib.Data.List.Induction
import PixelTelescope.Proofs.Assignment.Names

namespace PixelTelescope.Assignment

variable {a a' : Assignment} {detectors : List String} {detector name : String}

structure Places (a : Assignment) (detector : String) : Prop where
  collection : ∃ name ∈ a.names, a.collectionFor detector = .ok name
  sensor : ∃ id, a.sensorIdFor detector = .ok id

theorem collectionFor_ok : a.collectionFor detector = .ok name ↔
    Keyed.get? detector a.collections = some name := by
  unfold collectionFor
  cases Keyed.get? detector a.collections <;> simp

theorem sensorIdFor_ok {id : Int} : a.sensorIdFor detector = .ok id ↔
    Keyed.get? detector a.sensorIds = some id := by
  unfold sensorIdFor
  cases Keyed.get? detector a.sensorIds <;> simp

theorem collectionIndex_of_mem (h : name ∈ a.names) : ∃ index, a.collectionIndex name = .ok index := by
  unfold collectionIndex
  cases hi : a.names.findIdx? (· = name) with
  | some index => exact ⟨index, rfl⟩
  | none =>
    rw [List.findIdx?_eq_none_iff] at hi
    have := hi name h
    simp at this

/-- What is found under a key that was put is one of the values that were put under it. -/
theorem get?_foldl_put {β γ : Type} (f : β → String × γ) (items : List β) {key : String}
    (h : key ∈ items.map fun x => (f x).1) : ∃ x ∈ items, (f x).1 = key ∧
      Keyed.get? key (items.foldl (fun pairs x => Keyed.put (f x).1 (f x).2 pairs) []) =
        some (f x).2 := by
  induction items using List.reverseRecOn with
  | nil => simp at h
  | append_singleton items x ih =>
    rw [List.foldl_append, List.foldl_cons, List.foldl_nil]
    by_cases hk : key = (f x).1
    · exact ⟨x, by simp, hk.symm, hk ▸ Keyed.get?_put_self ..⟩
    · obtain ⟨y, hy, hkey, hget⟩ := ih (by simpa [hk] using h)
      exact ⟨y, List.mem_append_left _ hy, hkey, by rwa [Keyed.get?_put_of_ne _ _ hk]⟩

theorem mem_keys_foldl_put {β γ : Type} (f : β → String × γ) (items : List β) {key : String}
    (h : key ∈ Keyed.keys (items.foldl (fun pairs x => Keyed.put (f x).1 (f x).2 pairs) [])) :
    key ∈ items.map fun x => (f x).1 := by
  induction items using List.reverseRecOn with
  | nil => simp at h
  | append_singleton items x ih =>
    rw [List.foldl_append, List.foldl_cons, List.foldl_nil] at h
    rw [List.map_append, List.mem_append]
    rcases Keyed.mem_keys_put h with rfl | h
    · exact .inr (List.mem_singleton_self _)
    · exact .inl (ih h)

theorem uniform_places {collection : String} {source : Source}
    (h : uniform detectors collection source = .ok a) : ∀ d ∈ detectors, a.Places d := by
  obtain ⟨name, -, ha⟩ := bind_eq_ok.mp h
  obtain rfl := Except.ok.inj ha
  intro d hd
  constructor
  · have hput : d ∈ detectors.map fun d => d := by simpa
    obtain ⟨_, -, -, hget⟩ := get?_foldl_put (fun d => (d, name)) detectors hput
    refine ⟨name, ?_, collectionFor_ok.mpr hget⟩
    rw [if_neg (by simpa using List.ne_nil_of_mem hd)]
    exact List.mem_singleton_self name
  · have hput : d ∈ detectors.zipIdx.map fun e => e.1 := by
      rwa [List.zipIdx_map_fst]
    obtain ⟨⟨_, i⟩, -, -, hget⟩ := get?_foldl_put (fun e : String × Nat => (e.1, (e.2 : Int)))
      detectors.zipIdx hput
    exact ⟨i, sensorIdFor_ok.mpr hget⟩

def Complete (a : Assignment) : Prop :=
  ∀ d name, Keyed.get? d a.collections = some name →
    name ∈ a.names ∧ ∃ id, Keyed.get? d a.sensorIds = some id

theorem mem_addName (name : String) (names : List String) :
    name ∈ addName name names ∧ names ⊆ addName name names := by
  unfold addName
  split
  · rename_i h
    exact ⟨List.contains_iff_mem.mp h, List.Subset.refl _⟩
  · exact ⟨by simp, List.subset_append_left ..⟩

theorem addEntry_complete {index : Nat} {first second : Value} {third : Option Value}
    (ha : a.Complete) (h : addEntry detectors a index first second third = .ok a') :
    a'.Complete := by
  obtain ⟨-, -, -, id, -, -, rfl⟩ := addEntry_ok_iff.mp h
  obtain ⟨hnew, hold⟩ := mem_addName second.display a.names
  intro d name hget
  by_cases hd : d = first.display
  · subst hd
    rw [Keyed.get?_put_self] at hget
    exact ⟨Option.some.inj hget ▸ hnew, id, Keyed.get?_put_self ..⟩
  · rw [Keyed.get?_put_of_ne _ _ hd] at hget
    obtain ⟨hname, id', hid⟩ := ha d name hget
    exact ⟨hold hname, id', by rwa [Keyed.get?_put_of_ne _ _ hd]⟩

theorem fromRows_complete {rows : Value} (h : fromRows detectors rows = .ok a) : a.Complete := by
  obtain ⟨list, -, hrows, -⟩ := fromRows_ok h
  exact addRows_keeps (fun _ _ _ _ _ _ => addEntry_complete) (by simp [Complete, empty, Keyed.get?])
    hrows

theorem Complete.places (h : a.Complete) (hname : a.collectionFor detector = .ok name) :
    a.Places detector := by
  obtain ⟨hlisted, id, hid⟩ := h detector name (collectionFor_ok.mp hname)
  exact ⟨⟨name, hlisted, hname⟩, id, sensorIdFor_ok.mpr hid⟩

theorem fromRows_places {rows : Value} (h : fromRows detectors rows = .ok a) :
    ∀ d ∈ detectors, a.Places d := by
  obtain ⟨list, -, -, hcovered⟩ := fromRows_ok h
  intro d hd
  obtain ⟨name, hname⟩ := Option.isSome_iff_exists.mp (hcovered d hd)
  exact (fromRows_complete h).places (collectionFor_ok.mpr hname)

theorem uniform_complete {collection : String} {source : Source}
    (h : uniform detectors collection source = .ok a) : a.Complete := by
  have hplaces := uniform_places h
  obtain ⟨checked, -, ha⟩ := bind_eq_ok.mp h
  obtain rfl := Except.ok.inj ha
  intro d name hget
  have hd : d ∈ detectors := by
    simpa using mem_keys_foldl_put (fun d => (d, checked)) detectors
      (List.mem_map_of_mem (Keyed.mem_of_get? hget))
  obtain ⟨⟨name', hlisted, hname⟩, id, hid⟩ := hplaces d hd
  rw [collectionFor_ok, hget] at hname
  exact ⟨Option.some.inj hname ▸ hlisted, id, sensorIdFor_ok.mp hid⟩

/-- Whatever style of configuration an assignment is resolved from, every detector has its place. -/
theorem Request.resolve_places {r : Request} (h : r.resolve = .ok a) :
    ∀ d ∈ r.detectors, a.Places d := by
  unfold Request.resolve at h
  split at h
  · exact uniform_places h
  · exact fromRows_places h
  · exact uniform_places h

/-- A detector that is known to an assignment has its place. -/
theorem Request.resolve_complete {r : Request} (h : r.resolve = .ok a) : a.Complete := by
  unfold Request.resolve at h
  split at h
  · exact uniform_complete h
  · exact fromRows_complete h
  · exact uniform_complete h

end PixelTelescope.Assignment
