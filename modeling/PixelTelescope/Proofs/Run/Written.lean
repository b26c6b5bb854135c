import PixelTelescope.Proofs.Run.Append
import PixelTelescope.Proofs.Run.Turns

namespace PixelTelescope.Run

variable {α : Type}

section History

/-- The sessions that opening a run and then asking for any appends leads to, with the records whose
appends returned. An append may go wrong at each of its steps, but what it leaves behind is cleared
away. -/
inductive Reached : Session α → List (Event.Record α) → Prop
  | opened {s : Session α} {created : Except Failure Unit} {path detector : String}
      {run : Reading Float} {config : Option String}
      (h : (s.openRun created path run detector config).result = .ok ()) :
      Reached (s.openRun created path run detector config).state.1 []
  | stored {s : Session α} {rs : List (Event.Record α)} {hazard : Hazard α} {r : Event.Record α}
      (before : Reached s rs) (hc : hazard.Clears) (h : (s.append hazard r).result = .ok ()) :
      Reached (s.append hazard r).state (rs ++ [r])
  | failed {s : Session α} {rs : List (Event.Record α)} {hazard : Hazard α} {r : Event.Record α}
      {f : Failure} (before : Reached s rs) (hc : hazard.Clears)
      (h : (s.append hazard r).result = .error f) : Reached (s.append hazard r).state rs

variable {s : Session α} {t : Title} {rs : List (Event.Record α)}

/-- All that an append can come to. -/
theorem Session.Holds.append_cases (h : s.Holds t rs) {hazard : Hazard α} (hc : hazard.Clears)
    (r : Event.Record α) :
    ((∃ f, (s.append hazard r).result = .error f) ∧ (s.append hazard r).state = s) ∨
      ((s.append hazard r).result = .ok () ∧ (s.append hazard r).state.Holds t (rs ++ [r])) := by
  by_cases hn : r.number ∈ rs.map (·.number)
  · rw [h.append_known hazard hn]
    exact .inl ⟨⟨_, rfl⟩, rfl⟩
  · cases hf : storeFault hazard rs.length r with
    | some fault =>
      obtain ⟨hstate, hresult⟩ := h.append_failed hc hn hf
      exact .inl ⟨⟨_, hresult⟩, hstate⟩
    | none =>
      obtain ⟨hresult, hholds, -⟩ := h.append_stored hn hf
      exact .inr ⟨hresult, hholds⟩

theorem Reached.holds (h : Reached s rs) : ∃ t, s.Holds t rs := by
  induction h with
  | opened h =>
    obtain ⟨n, -, hholds, -⟩ := Session.openRun_holds h
    exact ⟨_, hholds⟩
  | @stored s rs hazard r _ hc h ih =>
    obtain ⟨t, ht⟩ := ih
    rcases ht.append_cases hc r with ⟨⟨f, hf⟩, -⟩ | ⟨-, hholds⟩
    · rw [h] at hf
      contradiction
    · exact ⟨t, hholds⟩
  | @failed s rs hazard r f _ hc h ih =>
    obtain ⟨t, ht⟩ := ih
    rcases ht.append_cases hc r with ⟨-, hstate⟩ | ⟨hok, -⟩
    · rw [hstate]
      exact ⟨t, ht⟩
    · rw [h] at hok
      contradiction

/-- An append stores its event whole or leaves the session as it was, free to store that event
later; and the count, its attribute and the groups always tell the appends that returned. -/
theorem append_all_or_nothing (h : Reached s rs) :
    (s.count = rs.length ∧
      Keyed.get? "n_events" s.file.attributes = some (.int rs.length) ∧
      s.file.groups.length = rs.length) ∧
    ∀ (hazard : Hazard α) (r : Event.Record α) (f : Failure), hazard.Clears →
      (s.append hazard r).result = .error f →
      (s.append hazard r).state = s ∧
      (∀ name ∈ Keyed.keys (s.append hazard r).state.file.groups, isStaging name = false) ∧
      ∀ again : Event.Record α, again.number = r.number →
        s.file.hasEvent (eventKey r.number) = false → Storable again →
        ((s.append hazard r).state.append {} again).result = .ok () := by
  obtain ⟨t, ht⟩ := h.holds
  have hgroups : s.file.groups = rs.map entry := by simp [File.groups, ht.file, storedFile]
  refine ⟨⟨ht.count, ?_, by simp [hgroups]⟩, ?_⟩
  · rw [ht.file]
    exact t.get?_count rs.length
  intro hazard r f hc hf
  rcases ht.append_cases hc r with ⟨-, hstate⟩ | ⟨hok, -⟩
  · rw [hstate]
    refine ⟨rfl, ?_, ?_⟩
    · intro name hn
      exact Session.not_staging_of_entries (hgroups ▸ hn)
    · intro again hnumber hnew hstorable
      have hfresh : again.number ∉ rs.map (·.number) := by
        rw [hnumber, ← ht.hasEvent, hnew]
        exact Bool.false_ne_true
      exact (ht.append_stored hfresh (Session.storeFault_of_storable hstorable _)).1
  · rw [hf] at hok
    contradiction

def unflushed : Hazard Int :=
  { during := fun _ step => match step with
      | .flush => some .refused
      | _ => none }

def lostEvent : Event.Record Int :=
  { run := 1, number := 7, type := 2, collections := [⟨"hits", .simple, [⟨0, 1, 2, 5, none⟩]⟩],
    truth := none }

def emptyRun : Session Int :=
  (({} : Session Int).openRun (.ok ()) "run.h5" (.whole 1) "telescope" none).state.1

theorem append_all_or_nothing_unflushed :
    (unflushed.Clears ∧
      (emptyRun.append unflushed lostEvent).result = .error (.output (.event 7 "run.h5"))) ∧
      (emptyRun.append unflushed lostEvent).state = emptyRun := by
  have hopened : Reached emptyRun [] := .opened rfl
  have hclears : unflushed.Clears := ⟨fun _ => rfl, rfl⟩
  have hfails : (emptyRun.append unflushed lostEvent).result =
      .error (.output (.event 7 "run.h5")) := rfl
  exact ⟨⟨hclears, hfails⟩,
    ((append_all_or_nothing hopened).2 unflushed lostEvent _ hclears hfails).1⟩

end History

/-- The desks that opening a run and then asking for any appends leads to, with the path of the run
and the records whose appends returned. An append may go wrong at each of its steps, but what it
leaves behind is cleared away. -/
inductive Desk.Written : Desk α → Path → List (Event.Record α) → Prop
  | opened {w : Desk α} {given detector : String} {run : Reading Float} {config : Option String}
      (h : (w.openRun (.ofText given) run detector config).result = .ok ()) :
      Written (w.openRun (.ofText given) run detector config).state (.ofText given) []
  | stored {w : Desk α} {path : Path} {rs : List (Event.Record α)} {hazard : Hazard α}
      {r : Event.Record α} (before : Written w path rs)
      (h : (w.append hazard r).result = .ok ()) :
      Written (w.append hazard r).state path (rs ++ [r])
  | failed {w : Desk α} {path : Path} {rs : List (Event.Record α)} {hazard : Hazard α}
      {r : Event.Record α} {f : Failure} (before : Written w path rs) (hc : hazard.Clears)
      (h : (w.append hazard r).result = .error f) : Written (w.append hazard r).state path rs

namespace Desk

variable {w : Desk α} {t : Title} {path : Path} {rs : List (Event.Record α)}

theorem Written.holds (h : w.Written path rs) : ∃ t, w.Holds t path rs := by
  induction h with
  | opened h =>
    obtain ⟨n, -, hholds, -⟩ := openRun_holds (Path.ofText_normal _) h
    exact ⟨_, hholds⟩
  | @stored w path rs hazard r _ h ih =>
    obtain ⟨t, ht⟩ := ih
    rw [ht.append_eq] at h ⊢
    obtain ⟨hn, hf⟩ := ht.session.append_ok h
    obtain ⟨-, hholds, hopened⟩ := ht.session.append_stored hn hf
    exact ⟨t, (ht.sync hholds hopened).1⟩
  | @failed w path rs hazard r f _ hc h ih =>
    obtain ⟨t, ht⟩ := ih
    rw [ht.append_eq] at h ⊢
    cases ht.session.append_cases hc r with
    | inl hfailed =>
      dsimp only
      rw [hfailed.2, ht.sync_self]
      exact ⟨t, ht⟩
    | inr hstored =>
      rw [hstored.1] at h
      contradiction

/-- An event of a new number that can be stored is the next to be written. -/
theorem Written.snoc (h : w.Written path rs) {r : Event.Record α}
    (hn : r.number ∉ rs.map (·.number)) (hs : Storable r) :
    (w.append {} r).state.Written path (rs ++ [r]) := by
  obtain ⟨t, ht⟩ := h.holds
  refine h.stored ?_
  rw [ht.append_eq]
  exact (ht.session.append_stored hn (Session.storeFault_of_storable hs _)).1

/-- The file that a run leaves behind holds its events in the order of their numbers. -/
theorem Written.closed_records (h : w.Written path rs) :
    path.SpelledBy path.text ∧ ∀ name, path.SpelledBy name →
      ∃ f, readRun w.close.state.disk name = .ok f ∧ f.records = .ok (byNumber rs) := by
  obtain ⟨t, ht⟩ := h.holds
  obtain ⟨-, hclosed⟩ := ht.close
  refine ⟨Disk.spelledBy_of_find ht.normal hclosed.disk, fun name hname => ?_⟩
  exact ⟨_, readRun_of_find hclosed.disk hname, records_storedFile hclosed.storable⟩

end Desk

end PixelTelescope.Run
