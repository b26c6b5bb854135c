import PixelTelescope.Proofs.Assignment.Rows

namespace PixelTelescope.Assignment

structure Numbers (a : Assignment) (detectors : List String) : Prop where
  listed : ∀ d id, a.sensorIdFor d = .ok id → d ∈ detectors
  apart : ∀ d d' id, a.sensorIdFor d = .ok id → a.sensorIdFor d' = .ok id → d = d'

variable {a a' : Assignment} {detectors : List String}

/-- Keys that differ are put one after the other. -/
theorem foldl_put_of_nodup {β γ : Type} (f : β → String × γ) {items : List β}
    (h : (items.map fun x => (f x).1).Nodup) :
    items.foldl (fun pairs x => Keyed.put (f x).1 (f x).2 pairs) [] = items.map f := by
  induction items using List.reverseRecOn with
  | nil => rfl
  | append_singleton items x ih =>
    rw [List.map_append, List.nodup_append] at h
    obtain ⟨hitems, -, hnew⟩ := h
    have hkey : (f x).1 ∉ Keyed.keys (items.map f) := by
      intro hmem
      rw [Keyed.keys, List.map_map] at hmem
      exact hnew _ hmem _ (by simp) rfl
    rw [List.foldl_append, ih hitems, List.foldl_cons, List.foldl_nil,
      Keyed.put_of_not_mem _ hkey, List.map_append, List.map_singleton]

/-- Places among detectors that differ are apart. -/
theorem uniform_numbers {collection : String} {source : Source} (hd : detectors.Nodup)
    (h : uniform detectors collection source = .ok a) : a.Numbers detectors := by
  obtain ⟨name, -, ha⟩ := bind_eq_ok.mp h
  obtain rfl := Except.ok.inj ha
  have hkeys : (detectors.zipIdx.map (·.1)).Nodup := by rwa [List.zipIdx_map_fst]
  have hids := foldl_put_of_nodup (fun e : String × Nat => (e.1, (e.2 : Int))) hkeys
  have hplace (d : String) (id : Int)
      (hget : Keyed.get? d (detectors.zipIdx.map fun e => (e.1, (e.2 : Int))) = some id) :
      ∃ i : Nat, detectors[i]? = some d ∧ id = i := by
    obtain ⟨⟨d', i⟩, hmem, hpair⟩ := List.mem_map.mp (Keyed.mem_of_get? hget)
    obtain ⟨rfl, rfl⟩ := Prod.mk.inj hpair
    exact ⟨i, List.mem_zipIdx_iff_getElem?.mp hmem, rfl⟩
  constructor
  · intro d id hid
    obtain ⟨i, hi, -⟩ := hplace d id (hids ▸ sensorIdFor_ok.mp hid)
    exact List.mem_of_getElem? hi
  · intro d d' id hid hid'
    obtain ⟨i, hi, rfl⟩ := hplace d id (hids ▸ sensorIdFor_ok.mp hid)
    obtain ⟨j, hj, hij⟩ := hplace d' i (hids ▸ sensorIdFor_ok.mp hid')
    obtain rfl : i = j := Int.ofNat.inj hij
    exact Option.some.inj (hi.symm.trans hj)

/-- A row is refused if its detector is not listed or its ID has come before. -/
theorem addEntry_numbers {index : Nat} {first second : Value} {third : Option Value}
    (ha : a.Numbers detectors) (h : addEntry detectors a index first second third = .ok a') :
    a'.Numbers detectors := by
  obtain ⟨-, hlisted, -, new, -, hnew, rfl⟩ := addEntry_ok_iff.mp h
  have hold (d : String) (id : Int) (hget : Keyed.get? d a.sensorIds = some id) : id ≠ new := by
    rintro rfl
    exact hnew (List.mem_map_of_mem (Keyed.mem_of_get? hget))
  constructor
  · intro d id hid
    by_cases hd : d = first.display
    · exact hd ▸ hlisted
    · rw [sensorIdFor_ok, Keyed.get?_put_of_ne _ _ hd] at hid
      exact ha.listed d id (sensorIdFor_ok.mpr hid)
  · intro d d' id hid hid'
    rw [sensorIdFor_ok] at hid hid'
    by_cases hd : d = first.display
    · by_cases hd' : d' = first.display
      · exact hd.trans hd'.symm
      · rw [hd, Keyed.get?_put_self] at hid
        rw [Keyed.get?_put_of_ne _ _ hd'] at hid'
        exact absurd (Option.some.inj hid).symm (hold d' id hid')
    · rw [Keyed.get?_put_of_ne _ _ hd] at hid
      by_cases hd' : d' = first.display
      · rw [hd', Keyed.get?_put_self] at hid'
        exact absurd (Option.some.inj hid').symm (hold d id hid)
      · rw [Keyed.get?_put_of_ne _ _ hd'] at hid'
        exact ha.apart d d' id (sensorIdFor_ok.mpr hid) (sensorIdFor_ok.mpr hid')

theorem fromRows_numbers {rows : Value} (h : fromRows detectors rows = .ok a) :
    a.Numbers detectors := by
  obtain ⟨list, -, hrows, -⟩ := fromRows_ok h
  refine addRows_keeps (fun _ _ _ _ _ _ => addEntry_numbers) ⟨?_, ?_⟩ hrows
  · intro d id hid
    contradiction
  · intro d d' id hid
    contradiction

/-- Whatever style of configuration an assignment is resolved from, its sensor IDs tell the
detectors apart. -/
theorem Request.resolve_numbers {r : Request} (hd : r.detectors.Nodup) (h : r.resolve = .ok a) :
    a.Numbers r.detectors := by
  unfold Request.resolve at h
  split at h
  · exact uniform_numbers hd h
  · exact fromRows_numbers h
  · exact uniform_numbers hd h

end PixelTelescope.Assignment
