import PixelTelescope.Proofs.Assignment.Coverage
import PixelTelescope.Proofs.Distinct

namespace PixelTelescope.Assignment

def RowGives (row : Value) (detector : String) (id : Int) : Prop :=
  ∃ first second third, row.items? = some [first, second, third] ∧ first.display = detector ∧
    third.reading.toInt = .ok id

/-- A table gives a detector a sensor ID, and is not set aside for a collection for all. -/
structure Request.Gives (r : Request) (detector : String) (id : Int) : Prop where
  collection : r.collection = none
  row : ∃ rows list row, r.rows = some rows ∧ rows.items? = some list ∧ row ∈ list ∧
    RowGives row detector id

/-- What stands after some rows of a table: every row has added a detector of its own, with the
sensor ID that the row gives or else with a place in the table. -/
structure Numbered (detectors : List String) (done : List Value) (a : Assignment) : Prop where
  once : (Keyed.keys a.collections).Nodup
  listed : ∀ d ∈ Keyed.keys a.collections, d ∈ detectors
  count : (Keyed.keys a.collections).length = done.length
  names : a.names.length ≤ done.length
  ids : ∀ d id, a.sensorIdFor d = .ok id →
    (∃ row ∈ done, RowGives row d id) ∨ ∃ index < done.length, id = (index : Nat)

variable {a a' : Assignment} {detectors : List String} {index : Nat} {d : String} {id : Int}

/-- A row that is added is an entry of two or three values. -/
theorem addRow_ok {row : Value} (h : addRow detectors a index row = .ok a') :
    ∃ first second third, addEntry detectors a index first second third = .ok a' ∧
      ∀ v, third = some v → row.items? = some [first, second, v] := by
  unfold addRow at h
  split at h
  · contradiction
  · exact ⟨_, _, none, h, by simp⟩
  · rename_i first second v hitems
    refine ⟨first, second, some v, h, fun w hw => ?_⟩
    rw [hitems, Option.some.inj hw]
  · contradiction

theorem rowSensorId_ok {third : Option Value} (h : rowSensorId index d third = .ok id) :
    (∃ v, third = some v ∧ v.reading.toInt = .ok id) ∨ id = index := by
  unfold rowSensorId at h
  split at h
  · exact .inr (Except.ok.inj h).symm
  · rename_i v
    split at h
    · rename_i hid
      exact .inl ⟨v, rfl, Except.ok.inj h ▸ hid⟩
    · contradiction
    · contradiction

theorem length_addName_le (name : String) (names : List String) :
    (addName name names).length ≤ names.length + 1 := by
  unfold addName
  split <;> simp

theorem addRow_numbered {done : List Value} {row : Value} (ha : Numbered detectors done a)
    (h : addRow detectors a done.length row = .ok a') : Numbered detectors (done ++ [row]) a' := by
  obtain ⟨first, second, third, hentry, hitems⟩ := addRow_ok h
  obtain ⟨-, hlisted, hnew, new, hid, -, rfl⟩ := addEntry_ok_iff.mp hentry
  have hput := Keyed.put_of_not_mem second.display hnew
  refine ⟨?_, ?_, ?_, ?_, ?_⟩
  · dsimp only
    rw [hput, Keyed.keys_append, List.nodup_append']
    exact ⟨ha.once, List.nodup_singleton _, by simpa using hnew⟩
  · intro d hd
    rcases Keyed.mem_keys_put hd with rfl | hd
    · exact hlisted
    · exact ha.listed d hd
  · dsimp only
    rw [hput, Keyed.keys_append, List.length_append, ha.count, List.length_append]
    rfl
  · have hnames := length_addName_le second.display a.names
    rw [List.length_append, List.length_singleton]
    exact Nat.le_trans hnames (Nat.add_le_add_right ha.names 1)
  · intro d id hget
    rw [sensorIdFor_ok] at hget
    by_cases hd : d = first.display
    · rw [hd, Keyed.get?_put_self] at hget
      obtain rfl := Option.some.inj hget
      rcases rowSensorId_ok hid with ⟨v, hthird, hv⟩ | rfl
      · exact .inl ⟨row, by simp, first, second, v, hitems v hthird, hd.symm, hv⟩
      · exact .inr ⟨done.length, by simp, rfl⟩
    · rw [Keyed.get?_put_of_ne _ _ hd] at hget
      rcases ha.ids d id (sensorIdFor_ok.mpr hget) with ⟨r, hr, hgives⟩ | ⟨i, hi, rfl⟩
      · exact .inl ⟨r, List.mem_append_left _ hr, hgives⟩
      · exact .inr ⟨i, by simpa using Nat.lt_succ_of_lt hi, rfl⟩

theorem addRows_numbered {done rows : List Value} (ha : Numbered detectors done a)
    (h : addRows detectors a done.length rows = .ok a') : Numbered detectors (done ++ rows) a' := by
  induction rows generalizing done a with
  | nil => simpa [← Except.ok.inj h] using ha
  | cons row rest ih =>
    obtain ⟨a₁, hrow, hrest⟩ := bind_eq_ok.mp h
    have hnext := addRow_numbered ha hrow
    have hall := ih hnext (by simpa using hrest)
    rwa [List.append_assoc, List.singleton_append] at hall

/-- Each row has a listed detector of its own, so there are no more rows than detectors. -/
theorem Numbered.length_le {rows : List Value} (h : Numbered detectors rows a) :
    rows.length ≤ detectors.length := by
  rw [← h.count]
  exact (List.Nodup.subperm h.once h.listed).length_le

theorem fromRows_numbered {rows : Value} (h : fromRows detectors rows = .ok a) :
    ∃ list, rows.items? = some list ∧ Numbered detectors list a := by
  obtain ⟨list, hitems, hrows, -⟩ := fromRows_ok h
  have hempty : Numbered detectors [] empty :=
    ⟨by simp [empty], by simp [empty], by simp [empty], by simp [empty],
      fun _ _ h => by contradiction⟩
  exact ⟨list, hitems, addRows_numbered hempty hrows⟩

theorem uniform_ids {collection : String} {source : Source}
    (h : uniform detectors collection source = .ok a) (hid : a.sensorIdFor d = .ok id) :
    ∃ index < detectors.length, id = (index : Nat) := by
  obtain ⟨name, -, ha⟩ := bind_eq_ok.mp h
  obtain rfl := Except.ok.inj ha
  have hget := sensorIdFor_ok.mp hid
  have hkey := mem_keys_foldl_put (fun e : String × Nat => (e.1, (e.2 : Int))) detectors.zipIdx
    (List.mem_map_of_mem (Keyed.mem_of_get? hget))
  obtain ⟨⟨_, i⟩, hi, -, hput⟩ := get?_foldl_put _ _ hkey
  exact ⟨i, (List.mem_zipIdx' hi).1, Option.some.inj (hget.symm.trans hput)⟩

theorem uniform_names {collection : String} {source : Source}
    (h : uniform detectors collection source = .ok a) : a.names.length ≤ detectors.length := by
  obtain ⟨name, -, ha⟩ := bind_eq_ok.mp h
  obtain rfl := Except.ok.inj ha
  cases detectors <;> simp

/-- A sensor ID is one that a table gives, or a place below the number of detectors. -/
theorem Request.resolve_ids {r : Request} (h : r.resolve = .ok a) (hid : a.sensorIdFor d = .ok id) :
    r.Gives d id ∨ ∃ index < r.detectors.length, id = (index : Nat) := by
  unfold Request.resolve at h
  split at h
  · exact .inr (uniform_ids h hid)
  · rename_i rows hcollection hrows
    obtain ⟨list, hitems, hnumbered⟩ := fromRows_numbered h
    rcases hnumbered.ids d id hid with ⟨row, hrow, hgives⟩ | ⟨i, hi, rfl⟩
    · exact .inl ⟨hcollection, rows, list, row, hrows, hitems, hrow, hgives⟩
    · exact .inr ⟨i, Nat.lt_of_lt_of_le hi hnumbered.length_le, rfl⟩
  · exact .inr (uniform_ids h hid)

theorem Request.resolve_names {r : Request} (h : r.resolve = .ok a) :
    a.names.length ≤ r.detectors.length := by
  unfold Request.resolve at h
  split at h
  · exact uniform_names h
  · obtain ⟨list, -, hnumbered⟩ := fromRows_numbered h
    exact Nat.le_trans hnumbered.names hnumbered.length_le
  · exact uniform_names h

end PixelTelescope.Assignment
