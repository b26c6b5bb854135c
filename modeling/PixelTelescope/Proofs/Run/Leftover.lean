import PixelTelescope.Proofs.Run.Event
import PixelTelescope.Proofs.Run.Key
import PixelTelescope.Run.Session

namespace PixelTelescope.Run

variable {α : Type} {f : File α} {gs : List (String × Group α)} {hazard : Hazard α}

/-- A session in whose file every group stems from one of these events, be it whole or a leftover
that could not be cleared away. -/
structure Session.Carries (s : Session α) (numbers : List Int) : Prop where
  stage : s.stage = .open
  events : ∃ gs, s.file.events = some gs ∧ ∀ name ∈ Keyed.keys gs,
    ∃ n ∈ numbers, name = eventKey n ∨ name = stagingKey (eventKey n)

theorem stagingKey_injective {a b : String} (h : stagingKey a = stagingKey b) : a = b := by
  have hl := congrArg String.toList h
  simp only [stagingKey, String.toList_append, List.append_cancel_left_eq] at hl
  exact String.toList_inj.mp hl

theorem Session.Carries.mono {s : Session α} {numbers more : List Int} (h : s.Carries numbers)
    (hm : ∀ n ∈ numbers, n ∈ more) : s.Carries more := by
  obtain ⟨hstage, gs, hgs, hnames⟩ := h
  refine ⟨hstage, gs, hgs, ?_⟩
  intro name hname
  obtain ⟨n, hn, he⟩ := hnames name hname
  exact ⟨n, hm n hn, he⟩

theorem free_of_names {numbers : List Int} {r : Event.Record α}
    (hnames : ∀ name ∈ Keyed.keys gs, ∃ n ∈ numbers, name = eventKey n ∨
      name = stagingKey (eventKey n)) (hn : r.number ∉ numbers) : Free r gs := by
  constructor
  · intro hm
    obtain ⟨n, hmem, he | he⟩ := hnames _ hm
    · exact hn (eventKey_injective he ▸ hmem)
    · exact stagingKey_ne_eventKey _ _ he.symm
  · intro hm
    obtain ⟨n, hmem, he | he⟩ := hnames _ hm
    · exact stagingKey_ne_eventKey _ _ he
    · exact hn (eventKey_injective (stagingKey_injective he) ▸ hmem)

theorem removeGroup_events (hazard : Hazard α) (h : f.events = some gs) (name : String) :
    ∃ gs', (removeGroup hazard f name).1.events = some gs' ∧ gs'.Sublist gs := by
  unfold removeGroup
  split
  · split
    · refine ⟨_, rfl, ?_⟩
      rw [File.groups, h]
      exact List.filter_sublist
    · exact ⟨gs, h, .refl _⟩
  · exact ⟨gs, h, .refl _⟩

theorem restoreCount_events (hazard : Hazard α) (path : String) (count : Nat) (f : File α) :
    (restoreCount hazard path count f).1.events = f.events := by
  unfold restoreCount
  split <;> rfl

/-- Clearing away adds nothing, whatever goes wrong with it. -/
theorem discard_events (hazard : Hazard α) (path : String) (count : Nat) (key : String)
    (h : f.events = some gs) :
    ∃ gs', (discard hazard path count key f).1.events = some gs' ∧ gs'.Sublist gs := by
  obtain ⟨gs₁, h₁, hsub₁⟩ := removeGroup_events hazard h (stagingKey key)
  obtain ⟨gs₂, h₂, hsub₂⟩ := removeGroup_events hazard h₁ key
  refine ⟨gs₂, ?_, hsub₂.trans hsub₁⟩
  exact (restoreCount_events hazard path count _).trans h₂

/-- What an append comes to is a matter of its own event, even where earlier ones have left
something behind. -/
theorem Session.Carries.append {s : Session α} {numbers : List Int} (h : s.Carries numbers)
    {r : Event.Record α} (hn : r.number ∉ numbers) (hazard : Hazard α) :
    (s.append hazard r).result =
        (match storeFault hazard s.count r with
        | none => .ok ()
        | some fault => .error (fault.failure r.number s.path)) ∧
      (s.append hazard r).state.Carries (numbers ++ [r.number]) ∧
      (s.append hazard r).state.opened = s.opened := by
  obtain ⟨hstage, gs, hgs, hnames⟩ := h
  have hfree := free_of_names hnames hn
  have hnew : s.file.hasEvent (eventKey r.number) = false := by
    rw [File.hasEvent, File.groups, hgs]
    exact Keyed.contains_eq_false_iff.mpr hfree.key
  have hfile : s.file = { attributes := s.file.attributes, events := some gs } := by
    rw [← hgs]
  obtain ⟨f, ⟨⟨own, hown, hremains⟩, -⟩, hperform, -⟩ :=
    perform_event hazard hfree s.file.attributes s.count
  rw [← hfile] at hperform
  have hafter : (f.following gs).events = some (gs ++ own) := by simp [File.following, hown]
  have hall : ∀ name ∈ Keyed.keys (gs ++ own), ∃ n ∈ numbers ++ [r.number],
      name = eventKey n ∨ name = stagingKey (eventKey n) := by
    intro name hname
    rw [Keyed.keys_append, List.mem_append] at hname
    rcases hname with hname | hname
    · obtain ⟨n, hn, he⟩ := hnames name hname
      exact ⟨n, List.mem_append_left _ hn, he⟩
    · exact ⟨r.number, by simp, (hremains name hname).symm⟩
  cases hf : storeFault hazard s.count r with
  | none =>
    rw [hf] at hperform
    simp only [Session.append, hstage, hnew, hperform, Bool.false_eq_true, ↓reduceIte]
    exact ⟨trivial, ⟨rfl, _, hafter, hall⟩, trivial⟩
  | some fault =>
    obtain ⟨gs', hgs', hsub⟩ :=
      discard_events hazard s.path s.count (eventKey r.number) hafter
    rw [hf] at hperform
    simp only [Session.append, hstage, hnew, hperform, Bool.false_eq_true, ↓reduceIte]
    exact ⟨trivial, ⟨rfl, gs', hgs', fun name hname =>
      hall name ((hsub.map _).subset hname)⟩, trivial⟩

end PixelTelescope.Run
