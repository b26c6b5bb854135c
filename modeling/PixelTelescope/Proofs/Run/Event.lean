import PixelTelescope.Proofs.Run.Store

namespace PixelTelescope.Run

variable {α : Type}

def entry (r : Event.Record α) : String × Group α := (eventKey r.number, storedGroup r)

def counted (count : Nat) (attributes : List (String × Attribute)) : List (String × Attribute) :=
  Keyed.put "n_events" (.int count) attributes

theorem applyAll_change (attributes : List (String × Attribute)) (name : String)
    (cs : List (Change α)) (g : Group α) :
    File.applyAll { attributes, events := some [(name, g)] } (cs.map (.change name)) =
      (g.applyAll cs).map fun g => { attributes, events := some [(name, g)] } := by
  induction cs generalizing g with
  | nil => rfl
  | cons c rest ih =>
    cases hc : g.apply c with
    | ok g' =>
      simpa [File.applyAll, File.apply, File.change, File.groups, Keyed.get?, Keyed.put, hc, bind,
        Except.bind, pure, Except.pure, Group.applyAll] using ih g'
    | error fault =>
      simp [File.applyAll, File.apply, File.change, File.groups, Keyed.get?, hc, bind, Except.bind,
        Group.applyAll, Except.map]

/-- Before its group is renamed, an event stands under its staging name alone. -/
theorem applyAll_staged (attributes : List (String × Attribute)) (r : Event.Record α) :
    File.applyAll { attributes, events := some [] }
      (.create (stagingKey (eventKey r.number)) ::
        (changes r).map (.change (stagingKey (eventKey r.number)))) =
      (Group.applyAll {} (changes r)).map fun g =>
        { attributes, events := some [(stagingKey (eventKey r.number), g)] } := by
  rw [← applyAll_change]
  rfl

/-- All steps of storing an event go through for storable records alone. -/
theorem applyAll_eventSteps {attributes : List (String × Attribute)} {count : Nat}
    {r : Event.Record α} {f : File α} :
    File.applyAll { attributes, events := some [] } (eventSteps count r) = .ok f ↔
      Storable r ∧
        f = { attributes := counted (count + 1) attributes, events := some [entry r] } := by
  have hne : stagingKey (eventKey r.number) ≠ eventKey r.number := stagingKey_ne_eventKey _ _
  rw [eventSteps, File.applyAll_append, applyAll_staged]
  constructor
  · intro h
    cases hg : Group.applyAll {} (changes r) with
    | ok g =>
      obtain ⟨hs, rfl⟩ := applyAll_changes.mp hg
      refine ⟨hs, ?_⟩
      simpa [hg, Except.map, File.applyAll, File.apply, File.rename, File.groups, File.hasEvent,
        Keyed.get?, Keyed.contains, Keyed.erase, hne, File.setCount, counted, entry] using h.symm
    | error fault => simp [hg, Except.map] at h
  · rintro ⟨hs, rfl⟩
    rw [applyAll_changes.mpr ⟨hs, rfl⟩]
    simp [Except.map, File.applyAll, File.apply, File.rename, File.groups, File.hasEvent,
      Keyed.get?, Keyed.contains, Keyed.erase, hne, File.setCount, counted, entry]

/-- What an event that is being stored may have left behind at any time: groups under its own two
names, and the next count. -/
structure Remains (attributes : List (String × Attribute)) (count : Nat) (r : Event.Record α)
    (f : File α) : Prop where
  events : ∃ gs, f.events = some gs ∧
    ∀ name ∈ Keyed.keys gs, name = stagingKey (eventKey r.number) ∨ name = eventKey r.number
  attributes : f.attributes = attributes ∨ f.attributes = counted (count + 1) attributes

theorem Remains.step {attributes : List (String × Attribute)} {count : Nat} {r : Event.Record α}
    {f f' : File α} {step : Step α} (h : Remains attributes count r f)
    (hs : step ∈ eventSteps count r) (ha : f.apply step = .ok f') :
    Remains attributes count r f' := by
  obtain ⟨⟨gs, hgs, hnames⟩, hattributes⟩ := h
  have hgroups : f.groups = gs := by simp [File.groups, hgs]
  simp only [eventSteps, List.mem_append, List.mem_cons, List.mem_map, List.not_mem_nil,
    or_false] at hs
  rcases hs with (rfl | ⟨c, -, rfl⟩) | rfl | rfl | rfl
  · simp only [File.apply, File.create, hgroups] at ha
    split at ha <;> simp at ha
    subst ha
    refine ⟨⟨_, rfl, ?_⟩, hattributes⟩
    intro name hn
    rw [Keyed.keys_append, List.mem_append] at hn
    exact hn.elim (hnames name) (by simp +contextual)
  · simp only [File.apply, File.change, hgroups] at ha
    split at ha
    · simp at ha
    · obtain ⟨g, -, hg⟩ := bind_eq_ok.mp ha
      cases hg
      refine ⟨⟨_, rfl, ?_⟩, hattributes⟩
      intro name hn
      exact (Keyed.mem_keys_put hn).elim .inl (hnames name)
  · simp only [File.apply, File.rename, hgroups] at ha
    split at ha
    · simp at ha
    · split at ha <;> simp at ha
      subst ha
      refine ⟨⟨_, rfl, ?_⟩, hattributes⟩
      intro name hn
      rw [Keyed.keys_append, List.mem_append] at hn
      exact hn.elim (fun hn => hnames name (Keyed.mem_keys_erase.mp hn).1) (by simp +contextual)
  · simp only [File.apply, Except.ok.injEq] at ha
    subst ha
    refine ⟨⟨gs, hgs, hnames⟩, .inr ?_⟩
    rcases hattributes with he | he <;> simp [File.setCount, counted, he]
  · simp only [File.apply, Except.ok.injEq] at ha
    exact ha ▸ ⟨⟨gs, hgs, hnames⟩, hattributes⟩

theorem remains_perform (hazard : Hazard α) (attributes : List (String × Attribute)) (count : Nat)
    (r : Event.Record α) : Remains attributes count r
      (perform hazard 0 (eventSteps count r) { attributes, events := some [] }).1 :=
  perform_keeps (fun _ hs _ _ h ha => h.step hs ha) hazard 0 ⟨⟨[], rfl, by simp⟩, .inl rfl⟩

/-- What goes wrong while an event is stored after so many others, whatever those are. -/
def storeFault (hazard : Hazard α) (count : Nat) (r : Event.Record α) : Option StoreFault :=
  (perform hazard 0 (eventSteps count r) { events := some [] }).2

theorem apply_attributes (f : File α) (attributes : List (String × Attribute)) (step : Step α) :
    ∃ attributes', ({ f with attributes } : File α).apply step =
      (f.apply step).map fun f => { f with attributes := attributes' } := by
  cases step with
  | create name =>
    refine ⟨attributes, ?_⟩
    simp only [File.apply, File.create, File.hasEvent, File.groups]
    by_cases hc : Keyed.contains name (f.events.getD []) = true <;> simp [hc, Except.map]
  | change name c =>
    refine ⟨attributes, ?_⟩
    simp only [File.apply, File.change, File.groups]
    cases Keyed.get? name (f.events.getD []) with
    | none => rfl
    | some g => cases hc : g.apply c <;> simp [hc, bind, Except.bind, Except.map, pure, Except.pure]
  | rename name newName =>
    refine ⟨attributes, ?_⟩
    simp only [File.apply, File.rename, File.hasEvent, File.groups]
    cases Keyed.get? name (f.events.getD []) with
    | none => rfl
    | some g =>
      by_cases hc : Keyed.contains newName (f.events.getD []) = true <;> simp [hc, Except.map]
  | setCount n => exact ⟨Keyed.put "n_events" (.int n) attributes, rfl⟩
  | flush => exact ⟨attributes, rfl⟩

/-- The header of a file has no part in what goes wrong. -/
theorem perform_attributes (hazard : Hazard α) (steps : List (Step α)) (n : Nat) (f : File α)
    (attributes : List (String × Attribute)) :
    (perform hazard n steps { f with attributes }).2 = (perform hazard n steps f).2 := by
  induction steps generalizing n f attributes with
  | nil => rfl
  | cons step rest ih =>
    obtain ⟨attributes', ha⟩ := apply_attributes f attributes step
    simp only [perform, ha]
    cases hazard.during n step with
    | some fault => rfl
    | none =>
      cases f.apply step with
      | ok g => exact ih (n + 1) g attributes'
      | error fault => rfl

structure Free (r : Event.Record α) (gs : List (String × Group α)) : Prop where
  key : eventKey r.number ∉ Keyed.keys gs
  staging : stagingKey (eventKey r.number) ∉ Keyed.keys gs

theorem Free.names {r : Event.Record α} {gs : List (String × Group α)} (h : Free r gs)
    {count : Nat} : ∀ step ∈ eventSteps count r, ∀ name ∈ step.names, name ∉ Keyed.keys gs := by
  intro step hs name hn
  simp only [eventSteps, List.mem_append, List.mem_cons, List.mem_map, List.not_mem_nil,
    or_false] at hs
  rcases hs with (rfl | ⟨c, -, rfl⟩) | rfl | rfl | rfl <;>
    simp only [Step.names, List.mem_cons, List.not_mem_nil, or_false] at hn
  · exact hn ▸ h.staging
  · exact hn ▸ h.staging
  · exact hn.elim (fun hn => hn ▸ h.staging) (fun hn => hn ▸ h.key)

/-- Storing an event leaves the other groups alone, and goes wrong as it would in an empty file. -/
theorem perform_event (hazard : Hazard α) {r : Event.Record α} {gs : List (String × Group α)}
    (hfree : Free r gs) (attributes : List (String × Attribute)) (count : Nat) :
    ∃ f, Remains attributes count r f ∧
      perform hazard 0 (eventSteps count r) { attributes, events := some gs } =
        (f.following gs, storeFault hazard count r) ∧
      (storeFault hazard count r = none →
        Storable r ∧
          f = { attributes := counted (count + 1) attributes, events := some [entry r] }) := by
  have hfault : (perform hazard 0 (eventSteps count r) { attributes, events := some [] }).2 =
      storeFault hazard count r :=
    perform_attributes hazard (eventSteps count r) 0 { events := some [] } attributes
  refine ⟨_, remains_perform hazard attributes count r, ?_, ?_⟩
  · have hf : perform hazard 0 (eventSteps count r)
        (File.following { attributes, events := some [] } gs) = _ :=
      perform_following rfl hfree.names 0
    rw [hfault] at hf
    simpa [File.following] using hf
  · intro hnone
    rw [hnone] at hfault
    exact applyAll_eventSteps.mp (perform_ok (Prod.ext rfl hfault))

/-- Nothing goes wrong in clearing away what is left of an event. -/
structure Hazard.Clears (hazard : Hazard α) : Prop where
  removal : ∀ name, hazard.removal name = none
  restoring : hazard.restoring = none

theorem removeGroup_clears {hazard : Hazard α} (hc : hazard.Clears) {f : File α}
    (hf : f.events.isSome = true) (name : String) :
    (removeGroup hazard f name).1 = f.remove name := by
  obtain ⟨attributes, events⟩ := f
  obtain ⟨gs, rfl⟩ := Option.isSome_iff_exists.mp hf
  by_cases hn : Keyed.contains name gs = true
  · simp [removeGroup, File.hasEvent, File.groups, hn, hc.removal]
  · have he := Keyed.erase_of_not_mem (fun hm => hn (Keyed.contains_iff.mpr hm))
    simp [removeGroup, File.hasEvent, File.groups, hn, File.remove, he]

/-- Once what is left of an event is cleared away, the file is as it was before the event. -/
theorem discard_remains {hazard : Hazard α} (hc : hazard.Clears) {r : Event.Record α}
    {gs : List (String × Group α)} (hfree : Free r gs) {attributes : List (String × Attribute)}
    {count : Nat} (hcount : Keyed.get? "n_events" attributes = some (.int count)) {f : File α}
    (hf : Remains attributes count r f) (path : String) :
    (discard hazard path count (eventKey r.number) (f.following gs)).1 =
      { attributes, events := some gs } := by
  obtain ⟨⟨own, hown, hnames⟩, hattributes⟩ := hf
  have hnone : Keyed.erase (eventKey r.number)
      (Keyed.erase (stagingKey (eventKey r.number)) own) = [] := by
    rw [List.eq_nil_iff_forall_not_mem]
    intro pair hp
    obtain ⟨hp, hk⟩ := Keyed.mem_keys_erase.mp (List.mem_map.mpr ⟨pair, hp, rfl⟩)
    obtain ⟨hp, hs⟩ := Keyed.mem_keys_erase.mp hp
    exact (hnames _ hp).elim hs hk
  have hrestored : Keyed.put "n_events" (.int count) f.attributes = attributes := by
    rcases hattributes with he | he
    · rw [he, Keyed.put_of_get? hcount]
    · rw [he, counted, Keyed.put_put, Keyed.put_of_get? hcount]
  have hfirst := removeGroup_clears hc (f := f.following gs) (by simp [File.following, hown])
    (stagingKey (eventKey r.number))
  have hsecond := removeGroup_clears hc
    (f := (f.following gs).remove (stagingKey (eventKey r.number))) rfl (eventKey r.number)
  simp only [discard, restoreCount, hc.restoring, hfirst, hsecond]
  simp [File.setCount, File.remove, File.following, File.groups, hown, Keyed.erase_append,
    Keyed.erase_of_not_mem hfree.staging, Keyed.erase_of_not_mem hfree.key, hnone, hrestored]

end PixelTelescope.Run
