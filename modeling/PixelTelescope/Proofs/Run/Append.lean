import PixelTelescope.Proofs.Run.Event

namespace PixelTelescope.Run

variable {α : Type}

structure Title where
  run : Int
  detector : String
  config : Option String

def Title.attributes (t : Title) (count : Nat) : List (String × Attribute) :=
  counted count (headerAttributes t.run t.detector t.config)

def storedFile (t : Title) (rs : List (Event.Record α)) : File α :=
  { attributes := t.attributes rs.length, events := some (rs.map entry) }

theorem Title.get?_count (t : Title) (count : Nat) :
    Keyed.get? "n_events" (t.attributes count) = some (.int count) := Keyed.get?_put_self ..

theorem Title.counted_attributes (t : Title) (m n : Nat) :
    counted m (t.attributes n) = t.attributes m := Keyed.put_put ..

theorem Title.attributes_zero (t : Title) :
    t.attributes 0 = headerAttributes t.run t.detector t.config := by
  apply Keyed.put_of_get?
  simp [headerAttributes, Keyed.get?]

theorem writeAttributes_none {attributes : List (String × Attribute)} {f f' : File α}
    (hd : (Keyed.keys (f.attributes ++ attributes)).Nodup)
    (h : writeAttributes f attributes = (f', none)) :
    f' = { f with attributes := f.attributes ++ attributes } := by
  induction attributes generalizing f with
  | nil =>
    simp only [writeAttributes, Prod.mk.injEq, and_true] at h
    simp [h]
  | cons pair rest ih =>
    obtain ⟨name, a⟩ := pair
    have hnew : name ∉ Keyed.keys f.attributes := by
      rw [Keyed.keys_append, List.nodup_append] at hd
      exact fun hm => hd.2.2 name hm name (by simp) rfl
    simp only [writeAttributes] at h
    split at h
    · rw [Keyed.put_of_not_mem a hnew] at h
      simpa using ih (by simpa using hd) h
    · simp at h

theorem File.begin_none {t : Title} {f : File α}
    (h : File.begin t.run t.detector t.config = (f, none)) :
    f = { attributes := t.attributes 0, events := some [] } := by
  unfold File.begin at h
  split at h
  · rename_i g hg
    have hd : (Keyed.keys (headerAttributes t.run t.detector t.config)).Nodup := by
      cases t.config <;> simp [headerAttributes]
    simp only [Prod.mk.injEq, and_true] at h
    rw [← h, writeAttributes_none (by simpa using hd) hg, t.attributes_zero]
    rfl
  · simp at h

namespace Session

/-- An open session that has stored these records, in this order, and nothing else. -/
structure Holds (s : Session α) (t : Title) (rs : List (Event.Record α)) : Prop where
  stage : s.stage = .open
  count : s.count = rs.length
  file : s.file = storedFile t rs
  distinct : (rs.map (·.number)).Nodup
  storable : ∀ r ∈ rs, Storable r

theorem openRun_holds {s : Session α} {created : Except Failure Unit} {path detector : String}
    {run : Reading Float} {config : Option String}
    (h : (s.openRun created path run detector config).result = .ok ()) :
    ∃ n, run.toInt = .ok n ∧
      (s.openRun created path run detector config).state.1.Holds ⟨n, detector, config⟩ [] ∧
      (s.openRun created path run detector config).state.1.opened = some ⟨path, n, detector⟩ ∧
      (s.openRun created path run detector config).state.2 =
        some (s.openRun created path run detector config).state.1.file := by
  unfold openRun at h ⊢
  split
  · split
    · simp_all
    · simp_all
    · rename_i n hn
      split
      · rename_i hf
        simp_all
      · rename_i f hf
        refine ⟨n, hn, ⟨rfl, rfl, ?_, by simp, by simp⟩, rfl, rfl⟩
        exact File.begin_none (t := ⟨n, detector, config⟩) hf
  · simp_all

variable {s : Session α} {t : Title} {rs : List (Event.Record α)}

theorem keys_entries (rs : List (Event.Record α)) :
    Keyed.keys (rs.map entry) = rs.map fun r => eventKey r.number := by
  simp [Keyed.keys, entry, Function.comp_def]

theorem eventKey_mem_entries {n : Int} :
    eventKey n ∈ Keyed.keys (rs.map entry) ↔ n ∈ rs.map (·.number) := by
  rw [keys_entries, List.mem_map, List.mem_map]
  constructor
  · rintro ⟨r, hr, he⟩
    exact ⟨r, hr, eventKey_injective he⟩
  · rintro ⟨r, hr, rfl⟩
    exact ⟨r, hr, rfl⟩

theorem not_staging_of_entries {name : String} (h : name ∈ Keyed.keys (rs.map entry)) :
    isStaging name = false := by
  rw [keys_entries] at h
  obtain ⟨r, -, rfl⟩ := List.mem_map.mp h
  exact isStaging_eventKey r.number

theorem free_of_new {r : Event.Record α} (hn : r.number ∉ rs.map (·.number)) :
    Free r (rs.map entry) where
  key := fun hm => hn (eventKey_mem_entries.mp hm)
  staging := by
    intro hm
    have h := not_staging_of_entries hm
    rw [isStaging_stagingKey] at h
    contradiction

theorem Holds.hasEvent (h : s.Holds t rs) (n : Int) :
    s.file.hasEvent (eventKey n) = true ↔ n ∈ rs.map (·.number) := by
  rw [File.hasEvent, Keyed.contains_iff, h.file]
  exact eventKey_mem_entries

/-- An event that stands in the file is not stored again. -/
theorem Holds.append_known (h : s.Holds t rs) (hazard : Hazard α) {r : Event.Record α}
    (hn : r.number ∈ rs.map (·.number)) :
    s.append hazard r = ⟨s, [], .error (.lifecycle (.alreadyWritten r.number))⟩ := by
  simp [append, h.stage, (h.hasEvent r.number).mpr hn]

/-- What storing a new event comes to, as far as the file goes. -/
theorem Holds.perform_new (h : s.Holds t rs) (hazard : Hazard α) {r : Event.Record α}
    (hn : r.number ∉ rs.map (·.number)) :
    ∃ f, Remains (t.attributes rs.length) rs.length r f ∧
      perform hazard 0 (eventSteps s.count r) s.file =
        (f.following (rs.map entry), storeFault hazard rs.length r) ∧
      (storeFault hazard rs.length r = none → Storable r ∧
        f = { attributes := t.attributes (rs.length + 1), events := some [entry r] }) := by
  rw [h.file, h.count, ← t.counted_attributes (rs.length + 1) rs.length]
  exact perform_event hazard (free_of_new hn) (t.attributes rs.length) rs.length

/-- An event that goes wrong on the way is as if it had never been asked for. -/
theorem Holds.append_failed (h : s.Holds t rs) {hazard : Hazard α} (hc : hazard.Clears)
    {r : Event.Record α} (hn : r.number ∉ rs.map (·.number)) {fault : StoreFault}
    (hf : storeFault hazard rs.length r = some fault) :
    (s.append hazard r).state = s ∧
      (s.append hazard r).result = .error (fault.failure r.number s.path) := by
  have hnew : ¬ s.file.hasEvent (eventKey r.number) = true := fun hk => hn ((h.hasEvent _).mp hk)
  obtain ⟨f, hremains, hperform, -⟩ := h.perform_new hazard hn
  have hdiscard := discard_remains hc (free_of_new hn) (t.get?_count rs.length) hremains s.path
  rw [← storedFile, ← h.file, ← h.count] at hdiscard
  rw [hf] at hperform
  simp only [append, h.stage, hnew, hperform, hdiscard, Bool.false_eq_true, ↓reduceIte]
  exact ⟨congrArg (fun stage => ({ s with stage } : Session α)) h.stage.symm, trivial⟩

/-- An event that nothing goes wrong with follows those before it. -/
theorem Holds.append_stored (h : s.Holds t rs) {hazard : Hazard α} {r : Event.Record α}
    (hn : r.number ∉ rs.map (·.number)) (hf : storeFault hazard rs.length r = none) :
    (s.append hazard r).result = .ok () ∧ (s.append hazard r).state.Holds t (rs ++ [r]) ∧
      (s.append hazard r).state.opened = s.opened := by
  have hnew : ¬ s.file.hasEvent (eventKey r.number) = true := fun hk => hn ((h.hasEvent _).mp hk)
  obtain ⟨f, -, hperform, hstored⟩ := h.perform_new hazard hn
  obtain ⟨hstorable, rfl⟩ := hstored hf
  rw [hf] at hperform
  simp only [append, h.stage, hnew, hperform, Bool.false_eq_true, ↓reduceIte]
  refine ⟨trivial, ⟨rfl, by simp [h.count], ?_, ?_, ?_⟩, trivial⟩
  · simp [File.following, storedFile]
  · rw [List.map_append, List.map_singleton, List.nodup_append]
    refine ⟨h.distinct, by simp, ?_⟩
    rintro a ha b hb rfl
    exact hn (List.mem_singleton.mp hb ▸ ha)
  · intro q hq
    rcases List.mem_append.mp hq with hq | hq
    · exact h.storable q hq
    · exact List.mem_singleton.mp hq ▸ hstorable

/-- An event that is stored is new, and nothing goes wrong with it. -/
theorem Holds.append_ok (h : s.Holds t rs) {hazard : Hazard α} {r : Event.Record α}
    (hok : (s.append hazard r).result = .ok ()) :
    r.number ∉ rs.map (·.number) ∧ storeFault hazard rs.length r = none := by
  by_cases hn : r.number ∈ rs.map (·.number)
  · rw [h.append_known hazard hn] at hok
    contradiction
  · refine ⟨hn, ?_⟩
    have hnew : ¬ s.file.hasEvent (eventKey r.number) = true := fun hk => hn ((h.hasEvent _).mp hk)
    obtain ⟨f, -, hperform, -⟩ := h.perform_new hazard hn
    cases hf : storeFault hazard rs.length r with
    | none => rfl
    | some fault =>
      rw [hf] at hperform
      simp only [append, h.stage, hnew, hperform, Bool.false_eq_true, ↓reduceIte] at hok
      contradiction

/-- An event that is stored is counted. -/
theorem append_count {hazard : Hazard α} {r : Event.Record α}
    (hok : (s.append hazard r).result = .ok ()) :
    (s.append hazard r).state.stage = s.stage ∧
      (s.append hazard r).state.count = s.count + 1 := by
  have hopen : s.stage = .open := by
    cases hstage : s.stage with
    | «open» => rfl
    | _ => simp [append, hstage] at hok
  by_cases hknown : s.file.hasEvent (eventKey r.number) = true
  · simp [append, hopen, hknown] at hok
  · obtain ⟨⟨file, found⟩, hperform⟩ :
        ∃ performed, perform hazard 0 (eventSteps s.count r) s.file = performed := ⟨_, rfl⟩
    simp only [append, hopen, hknown, hperform, Bool.false_eq_true, ↓reduceIte] at hok ⊢
    cases found with
    | none => exact ⟨rfl, rfl⟩
    | some fault => contradiction

theorem storeFault_of_storable {r : Event.Record α} (hs : Storable r) (count : Nat) :
    storeFault {} count r = none := by
  rw [storeFault, perform_of_applyAll (fun _ _ => rfl) (applyAll_eventSteps.mpr ⟨hs, rfl⟩)]

end Session

end PixelTelescope.Run
