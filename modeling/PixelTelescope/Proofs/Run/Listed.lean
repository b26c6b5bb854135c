import PixelTelescope.Proofs.Run.Leftover
import PixelTelescope.Proofs.Run.Reading

namespace PixelTelescope.Run

variable {α : Type} {gs gs' : List (String × Group α)} {r : Event.Record α}

structure Labelled (gs : List (String × Group α)) : Prop where
  distinct : (Keyed.keys gs).Nodup
  named : ∀ name ∈ Keyed.keys gs,
    (∃ n, Attribute.fits n = true ∧ name = eventKey n) ∨ ∃ n, name = stagingKey (eventKey n)

/-- The sessions that calls of any kind lead to, whatever goes wrong with them: also where events
are left half stored because they cannot be cleared away. -/
inductive Called : Session α → Prop
  | start : Called {}
  | openRun {s : Session α} (h : Called s) (created : Except Failure Unit) (path : String)
      (run : Reading Float) (detector : String) (config : Option String) :
      Called (s.openRun created path run detector config).state.1
  | append {s : Session α} (h : Called s) (hazard : Hazard α) (r : Event.Record α) :
      Called (s.append hazard r).state
  | close {s : Session α} (h : Called s) : Called s.close.state

theorem Labelled.sublist (h : Labelled gs) (hsub : gs'.Sublist gs) : Labelled gs' where
  distinct := h.distinct.sublist (hsub.map _)
  named name hname := h.named name ((hsub.map _).subset hname)

/-- Until its group is renamed, an event stands under its staging name. -/
theorem apply_writing {staging : String} {cs : List (Change α)} {f f' : File α} {step : Step α}
    (hs : step ∈ .create staging :: cs.map (.change staging))
    (h : f.events = some [] ∨ ∃ g, f.events = some [(staging, g)]) (ha : f.apply step = .ok f') :
    f'.events = some [] ∨ ∃ g, f'.events = some [(staging, g)] := by
  rcases List.mem_cons.mp hs with rfl | hs
  · rcases h with h | ⟨g, h⟩
    · simp only [File.apply, File.create, File.hasEvent, File.groups, h, Option.getD_some,
        Keyed.contains, Keyed.get?, Option.isSome_none, Bool.false_eq_true, ↓reduceIte,
        Except.ok.injEq] at ha
      subst ha
      exact .inr ⟨_, rfl⟩
    · simp [File.apply, File.create, File.hasEvent, File.groups, h, Keyed.contains,
        Keyed.get?] at ha
  · obtain ⟨c, -, rfl⟩ := List.mem_map.mp hs
    rcases h with h | ⟨g, h⟩
    · simp [File.apply, File.change, File.groups, h, Keyed.get?] at ha
    · simp only [File.apply, File.change, File.groups, h, Option.getD_some, Keyed.get?,
        ↓reduceIte] at ha
      obtain ⟨g', -, hg⟩ := bind_eq_ok.mp ha
      cases hg
      exact .inr ⟨g', by simp [Keyed.put]⟩

/-- What follows the writing leaves an event under one of its two names. -/
theorem apply_naming {staging key : String} {count : Nat} {f f' : File α} {step : Step α}
    (hs : step ∈ [.rename staging key, .setCount count, .flush])
    (h : ∃ name g, f.events = some [(name, g)] ∧ (name = staging ∨ name = key))
    (ha : f.apply step = .ok f') :
    ∃ name g, f'.events = some [(name, g)] ∧ (name = staging ∨ name = key) := by
  simp only [List.mem_cons, List.not_mem_nil, or_false] at hs
  rcases hs with rfl | rfl | rfl
  · obtain ⟨name, g, h, -⟩ := h
    simp only [File.apply, File.rename, File.groups, h, Option.getD_some, Keyed.get?] at ha
    by_cases hn : name = staging
    · simp only [hn, ↓reduceIte] at ha
      split at ha
      · contradiction
      · cases ha
        exact ⟨key, g, by simp [Keyed.erase], .inr rfl⟩
    · simp [hn] at ha
  · cases ha
    exact h
  · cases ha
    exact h

/-- What is there of an event that is being stored: one group at most, which stands under its key
only once all of it has been written. -/
def Alone (r : Event.Record α) (own : List (String × Group α)) : Prop :=
  own = [] ∨ ∃ name g, own = [(name, g)] ∧
    (name = stagingKey (eventKey r.number) ∨ name = eventKey r.number ∧ Storable r)

theorem perform_alone (hazard : Hazard α) (attributes : List (String × Attribute)) (count : Nat)
    (r : Event.Record α) :
    ∃ own, (perform hazard 0 (eventSteps count r) { attributes, events := some [] }).1.events =
        some own ∧ Alone r own := by
  let staging := stagingKey (eventKey r.number)
  let writing : List (Step α) := .create staging :: (changes r).map (.change staging)
  let start : File α := { attributes, events := some [] }
  have hwritten : (perform hazard 0 writing start).1.events = some [] ∨
      ∃ g, (perform hazard 0 writing start).1.events = some [(staging, g)] :=
    perform_keeps (fun _ hs _ _ h ha => apply_writing hs h ha) hazard 0 (.inl rfl)
  have hsteps : eventSteps count r =
      writing ++ [.rename staging (eventKey r.number), .setCount (count + 1), .flush] := rfl
  rw [hsteps, perform_append]
  obtain ⟨⟨f, fault⟩, hperform⟩ : ∃ done, perform hazard 0 writing start = done := ⟨_, rfl⟩
  rw [hperform] at hwritten ⊢
  cases fault with
  | some fault =>
    rcases hwritten with hf | ⟨g, hf⟩
    · exact ⟨_, hf, .inl rfl⟩
    · exact ⟨_, hf, .inr ⟨_, g, rfl, .inl rfl⟩⟩
  | none =>
    have hall := (applyAll_staged attributes r).symm.trans (perform_ok hperform)
    obtain ⟨g, hg, hf⟩ := map_eq_ok.mp hall
    obtain ⟨hs, -⟩ := applyAll_changes.mp hg
    obtain ⟨name, g, hnamed, hname⟩ := perform_keeps
      (fun _ hs _ _ h ha => apply_naming hs h ha) hazard (0 + writing.length)
      (f := f) ⟨staging, g, by rw [← hf], .inl rfl⟩
    exact ⟨_, hnamed, .inr ⟨name, g, rfl, hname.imp_right fun h => ⟨h, hs⟩⟩⟩

theorem Labelled.append (h : Labelled gs) (hfree : Free r gs) {own : List (String × Group α)}
    (hown : Alone r own) : Labelled (gs ++ own) := by
  rcases hown with rfl | ⟨name, g, rfl, hname⟩
  · rwa [List.append_nil]
  · have hnew : name ∉ Keyed.keys gs := by
      rcases hname with rfl | ⟨rfl, -⟩
      · exact hfree.staging
      · exact hfree.key
    constructor
    · rw [Keyed.keys_append, List.nodup_append]
      refine ⟨h.distinct, by simp, ?_⟩
      rintro a ha b hb rfl
      obtain rfl := List.mem_singleton.mp hb
      exact hnew ha
    · intro other hother
      rw [Keyed.keys_append, List.mem_append] at hother
      rcases hother with hother | hother
      · exact h.named other hother
      · obtain rfl := List.mem_singleton.mp hother
        rcases hname with hstaging | ⟨hkey, hs⟩
        · exact .inr ⟨_, hstaging⟩
        · exact .inl ⟨_, hs.number, hkey⟩

/-- Storing an event under a free key keeps the names in order, also where a leftover of its stands
in the way. -/
theorem Labelled.perform (h : Labelled gs) (hkey : eventKey r.number ∉ Keyed.keys gs)
    (hazard : Hazard α) (attributes : List (String × Attribute)) (count : Nat) :
    ∃ gs', (perform hazard 0 (eventSteps count r) { attributes, events := some gs }).1.events =
      some gs' ∧ Labelled gs' := by
  by_cases hstaging : stagingKey (eventKey r.number) ∈ Keyed.keys gs
  · refine ⟨gs, ?_, h⟩
    have hrefused : ({ attributes, events := some gs } : File α).apply
        (.create (stagingKey (eventKey r.number))) = .error .refused := by
      simp [File.apply, File.create, File.hasEvent, File.groups, Keyed.contains_iff.mpr hstaging]
    simp only [eventSteps, List.cons_append, Run.perform, hrefused]
    split <;> rfl
  · have hfree : Free r gs := ⟨hkey, hstaging⟩
    obtain ⟨own, hevents, hown⟩ := perform_alone hazard attributes count r
    have hperform : Run.perform hazard 0 (eventSteps count r)
        (File.following { attributes, events := some [] } gs) = _ :=
      perform_following rfl hfree.names 0
    refine ⟨gs ++ own, ?_, h.append hfree hown⟩
    simp only [File.following, Option.map_some, List.append_nil] at hperform
    rw [hperform, hevents]
    rfl

def Session.InOrder (s : Session α) : Prop :=
  s.stage = .uninitialized ∨ ∃ gs, s.file.events = some gs ∧ Labelled gs

theorem Session.InOrder.append {s : Session α} (h : s.InOrder) (hazard : Hazard α)
    (r : Event.Record α) : (s.append hazard r).state.InOrder := by
  unfold Session.append
  split
  · rename_i hstage
    obtain hnone | ⟨gs, hgs, hlabelled⟩ := h
    · rw [hnone] at hstage
      contradiction
    dsimp only
    split
    · exact .inr ⟨gs, hgs, hlabelled⟩
    · rename_i hnew
      have hkey : eventKey r.number ∉ Keyed.keys gs := by
        rwa [File.hasEvent, File.groups, hgs, Option.getD_some, Keyed.contains_iff] at hnew
      have hfile : s.file = { attributes := s.file.attributes, events := some gs } := by
        rw [← hgs]
      obtain ⟨gs', hgs', hlabelled'⟩ :=
        hlabelled.perform hkey hazard s.file.attributes s.count
      rw [← hfile] at hgs'
      split
      · rename_i f hf
        rw [hf] at hgs'
        exact .inr ⟨gs', hgs', hlabelled'⟩
      · rename_i f fault hf
        rw [hf] at hgs'
        obtain ⟨kept, hkept, hsub⟩ := discard_events hazard s.path s.count (eventKey r.number) hgs'
        exact .inr ⟨kept, hkept, hlabelled'.sublist hsub⟩
  · exact h

theorem Session.InOrder.openRun {s : Session α} (h : s.InOrder) (created : Except Failure Unit)
    (path : String) (run : Reading Float) (detector : String) (config : Option String) :
    (s.openRun created path run detector config).state.1.InOrder := by
  by_cases hok : (s.openRun created path run detector config).result = .ok ()
  · obtain ⟨n, -, hholds, -⟩ := Session.openRun_holds hok
    exact .inr ⟨[], by rw [hholds.file]; rfl, List.nodup_nil, by simp⟩
  · have hsame : (s.openRun created path run detector config).state.1 = s := by
      unfold Session.openRun at hok ⊢
      split at hok
      · split at hok
        · rfl
        · rfl
        · split at hok
          · rfl
          · contradiction
      · rfl
    rwa [hsame]

theorem Session.InOrder.close {s : Session α} (h : s.InOrder) : s.close.state.InOrder := by
  unfold Session.close
  split
  · rename_i hstage
    obtain hnone | hlabelled := h
    · rw [hnone] at hstage
      contradiction
    · exact .inr hlabelled
  · exact h
  · exact h

theorem Called.inOrder {s : Session α} (h : Called s) : s.InOrder := by
  induction h with
  | start => exact .inl rfl
  | openRun _ created path run detector config ih =>
    exact ih.openRun created path run detector config
  | append _ hazard r ih => exact ih.append hazard r
  | close _ ih => exact ih.close

theorem Labelled.isStaging_iff (h : Labelled gs) {name : String} (hname : name ∈ Keyed.keys gs) :
    isStaging name = true ↔ ∃ n, name = stagingKey (eventKey n) := by
  constructor
  · intro hs
    obtain ⟨n, -, rfl⟩ | hstaging := h.named name hname
    · rw [isStaging_eventKey] at hs
      contradiction
    · exact hstaging
  · rintro ⟨n, rfl⟩
    exact isStaging_stagingKey _

def complete (gs : List (String × Group α)) : List (String × Group α) :=
  gs.filter fun entry => !isStaging entry.1

def numberOf (name : String) : Int := (Text.integer? name).getD 0

@[simp] theorem numberOf_eventKey (n : Int) : numberOf (eventKey n) = n := by
  rw [numberOf, integer?_eventKey, Option.getD_some]

theorem Labelled.complete_key (h : Labelled gs) {entry : String × Group α}
    (he : entry ∈ complete gs) :
    ∃ n, Attribute.fits n = true ∧ entry.1 = eventKey n := by
  obtain ⟨hmem, hstaging⟩ := List.mem_filter.mp he
  obtain hkey | ⟨n, hn⟩ := h.named entry.1 (List.mem_map_of_mem hmem)
  · exact hkey
  · rw [hn, isStaging_stagingKey] at hstaging
    contradiction

theorem Labelled.complete_numbers (h : Labelled gs) :
    ((complete gs).map fun entry => numberOf entry.1).Nodup := by
  have hnames : (complete gs).Pairwise fun a b => a.1 ≠ b.1 :=
    List.pairwise_map.mp (h.sublist List.filter_sublist).distinct
  refine List.pairwise_map.mpr (hnames.imp_of_mem ?_)
  intro a b ha hb hne he
  obtain ⟨m, -, hm⟩ := h.complete_key ha
  obtain ⟨n, -, hn⟩ := h.complete_key hb
  rw [hm, hn, numberOf_eventKey, numberOf_eventKey] at he
  exact hne (by rw [hm, hn, he])

/-- A reader lists the groups that stand under keys, in the order of their numbers. -/
theorem Labelled.committed {f : File α} (hf : f.events = some gs) (h : Labelled gs) :
    ∃ listed, f.committed = .ok listed ∧ listed.Pairwise (fun a b => a.1 < b.1) ∧
      ∀ n g, (n, g) ∈ listed ↔ (eventKey n, g) ∈ gs := by
  let number (entry : String × Group α) : Int × Group α := (numberOf entry.1, entry.2)
  have hnumbered : (complete gs).mapM File.numbered = .ok ((complete gs).map number) := by
    apply mapM_ok
    rintro ⟨name, g⟩ he
    obtain ⟨n, hn, rfl⟩ := h.complete_key he
    simp [File.numbered, number, readInt_eventKey (length_keyDigits_of_fits hn)]
  refine ⟨((complete gs).map number).mergeSort fun a b => a.1 ≤ b.1, ?_, ?_, ?_⟩
  · simp only [File.committed, hf, orMissing, bind, Except.bind]
    rw [complete] at hnumbered
    rw [hnumbered]
    rfl
  · apply mergeSort_increasing
    rw [List.map_map]
    exact h.complete_numbers
  · intro n g
    rw [List.mem_mergeSort, List.mem_map]
    constructor
    · rintro ⟨⟨name, g'⟩, he, hnumber⟩
      obtain ⟨m, -, rfl⟩ := h.complete_key he
      simp only [number, numberOf_eventKey, Prod.mk.injEq] at hnumber
      rw [← hnumber.1, ← hnumber.2]
      exact (List.mem_filter.mp he).1
    · intro hmem
      refine ⟨(eventKey n, g), List.mem_filter.mpr ⟨hmem, ?_⟩, ?_⟩
      · simp [isStaging_eventKey]
      · simp [number]

def byValue (names : List String) : List String :=
  names.mergeSort fun a b => numberOf a ≤ numberOf b

theorem byValue_eventKeys {numbers : List Int} (hd : numbers.Nodup) :
    ∃ sorted : List Int, byValue (numbers.map eventKey) = sorted.map eventKey ∧
      sorted.Perm numbers ∧ sorted.Pairwise (· < ·) := by
  refine ⟨numbers.mergeSort fun a b => a ≤ b, ?_, List.mergeSort_perm .., ?_⟩
  · rw [byValue, ← List.map_mergeSort (r := fun a b => decide (a ≤ b))]
    intro a _ b _
    rw [numberOf_eventKey, numberOf_eventKey]
  · exact mergeSort_increasing (f := id) (by rwa [List.map_id])

/-- Keys tell numbers of any size apart and can be read back, no key is taken for a staging name,
and the keys of a set of numbers have an order in which these increase. So a reader finds all events
of a file in order and nothing else, whatever has gone wrong while they were stored. -/
theorem event_keys_are_ordered_names :
    (∀ n, Text.integer? (eventKey n) = some n) ∧
      (∀ n, (keyDigits n).length ≤ Text.digitLimit → Text.readInt (eventKey n) = some n) ∧
      (∀ text n, Text.readInt text = some n → Text.integer? text = some n) ∧
      (∀ m n, eventKey m = eventKey n ↔ m = n) ∧
      (∀ n, isStaging (eventKey n) = false) ∧
      (∀ m n, stagingKey (eventKey m) ≠ eventKey n) ∧
      (∀ numbers : List Int, numbers.Nodup → ∃ sorted : List Int,
        byValue (numbers.map eventKey) = sorted.map eventKey ∧ sorted.Perm numbers ∧
          sorted.Pairwise (· < ·)) ∧
      (∃ m n, m < n ∧ eventKey n < eventKey m) ∧
      ∀ s : Session α, Called s → s.stage ≠ .uninitialized →
        (∀ name ∈ Keyed.keys s.file.groups,
          (isStaging name = true ↔ ∃ n, name = stagingKey (eventKey n)) ∧
          (isStaging name = false ↔ ∃ n, name = eventKey n)) ∧
        ∃ listed, s.file.committed = .ok listed ∧ listed.Pairwise (fun a b => a.1 < b.1) ∧
          ∀ n g, (n, g) ∈ listed ↔ (eventKey n, g) ∈ s.file.groups := by
  refine ⟨integer?_eventKey, fun n => readInt_eventKey, fun text n => Text.integer?_of_readInt,
    fun m n => ⟨eventKey_injective, ?_⟩, isStaging_eventKey, fun m n => stagingKey_ne_eventKey _ n,
    fun numbers => byValue_eventKeys, ⟨-2, -1, by decide, by decide⟩, ?_⟩
  · rintro rfl
    rfl
  · intro s hcalled hstage
    obtain hnone | ⟨gs, hgs, hlabelled⟩ := hcalled.inOrder
    · exact absurd hnone hstage
    have hgroups : s.file.groups = gs := by rw [File.groups, hgs]; rfl
    rw [hgroups]
    refine ⟨fun name hname => ⟨hlabelled.isStaging_iff hname, ?_⟩, hlabelled.committed hgs⟩
    rw [← Bool.not_eq_true, hlabelled.isStaging_iff hname]
    constructor
    · intro hno
      obtain ⟨n, -, hn⟩ | hstaging := hlabelled.named name hname
      · exact ⟨n, hn⟩
      · exact absurd hstaging hno
    · rintro ⟨n, rfl⟩ ⟨m, hm⟩
      exact stagingKey_ne_eventKey _ _ hm.symm

def stuck : Hazard Int where
  during := fun _ step => match step with
    | .change _ .openCollections => some .refused
    | _ => none
  removal := fun _ => some "busy"

def eventOf (number : Int) : Event.Record Int :=
  { run := 1, number, type := 2, collections := [⟨"hits", .simple, [⟨0, 1, 2, 5, none⟩]⟩],
    truth := none }

def stuckRun : Session Int :=
  (((({} : Session Int).openRun (.ok ()) "run.h5" (.whole 1) "telescope" none).state.1.append stuck
    (eventOf (-7))).state.append {} (eventOf 8)).state

theorem event_keys_are_ordered_names_leftover :
    (Called stuckRun ∧ stuckRun.stage ≠ .uninitialized) ∧
      Keyed.keys stuckRun.file.groups = [".staging_-00000007", "000000008"] ∧
      ∃ listed, stuckRun.file.committed = .ok listed ∧ listed ≠ [] ∧ ∀ e ∈ listed, e.1 = 8 := by
  have hcalled : Called stuckRun :=
    ((Called.start.openRun (.ok ()) "run.h5" (.whole 1) "telescope" none).append stuck _).append
      {} _
  have hstage : stuckRun.stage ≠ .uninitialized := by decide
  have hkeys : Keyed.keys stuckRun.file.groups = [stagingKey (eventKey (-7)), eventKey 8] := by
    decide
  obtain ⟨-, -, -, hinjective, -, -, -, -, hsession⟩ := event_keys_are_ordered_names
  obtain ⟨-, listed, hlisted, -, hmem⟩ := hsession stuckRun hcalled hstage
  refine ⟨⟨hcalled, hstage⟩, hkeys, listed, hlisted, ?_, ?_⟩
  · rintro rfl
    have hkey : eventKey 8 ∈ Keyed.keys stuckRun.file.groups := by simp [hkeys]
    obtain ⟨⟨name, g⟩, hg, rfl⟩ := List.mem_map.mp hkey
    exact List.not_mem_nil ((hmem 8 g).mpr hg)
  · rintro ⟨n, g⟩ he
    have hkey : eventKey n ∈ Keyed.keys stuckRun.file.groups :=
      List.mem_map_of_mem ((hmem n g).mp he)
    rw [hkeys, List.mem_cons, List.mem_singleton] at hkey
    rcases hkey with hkey | hkey
    · exact absurd hkey.symm (stagingKey_ne_eventKey _ _)
    · exact (hinjective n 8).mp hkey

end PixelTelescope.Run
