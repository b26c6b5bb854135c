import PixelTelescope.Run.Session
import PixelTelescope.Proofs.Outcome
import PixelTelescope.Proofs.Run.Group
import PixelTelescope.Proofs.Run.Key

namespace PixelTelescope.Run

variable {α : Type}

def File.applyAll (f : File α) : List (Step α) → Except StoreFault (File α)
  | [] => .ok f
  | step :: rest =>
    match f.apply step with
    | .ok f => f.applyAll rest
    | .error fault => .error fault

def File.following (f : File α) (earlier : List (String × Group α)) : File α :=
  { f with events := f.events.map (earlier ++ ·) }

def Step.names : Step α → List String
  | .create name => [name]
  | .change name _ => [name]
  | .rename name newName => [name, newName]
  | .setCount _ => []
  | .flush => []

theorem File.applyAll_append (f : File α) (xs ys : List (Step α)) :
    f.applyAll (xs ++ ys) =
      match f.applyAll xs with
      | .ok f => f.applyAll ys
      | .error fault => .error fault := by
  induction xs generalizing f with
  | nil => rfl
  | cons step rest ih =>
    simp only [List.cons_append, applyAll]
    cases f.apply step with
    | ok f => exact ih f
    | error fault => rfl

theorem perform_append (hazard : Hazard α) (xs ys : List (Step α)) (n : Nat) (f : File α) :
    perform hazard n (xs ++ ys) f =
      match perform hazard n xs f with
      | (f, none) => perform hazard (n + xs.length) ys f
      | (f, some fault) => (f, some fault) := by
  induction xs generalizing n f with
  | nil => rfl
  | cons step rest ih =>
    simp only [List.cons_append, perform]
    cases hazard.during n step with
    | some fault => rfl
    | none =>
      cases f.apply step with
      | ok g =>
        rw [List.length_cons, Nat.add_comm rest.length, ← Nat.add_assoc]
        exact ih (n + 1) g
      | error fault => rfl

theorem perform_ok {hazard : Hazard α} {steps : List (Step α)} {n : Nat} {f f' : File α}
    (h : perform hazard n steps f = (f', none)) : f.applyAll steps = .ok f' := by
  induction steps generalizing n f with
  | nil =>
    simp only [perform, Prod.mk.injEq, and_true] at h
    rw [File.applyAll, h]
  | cons step rest ih =>
    simp only [perform] at h
    split at h
    · simp at h
    · split at h
      · rename_i g hg
        simp only [File.applyAll, hg]
        exact ih h
      · simp at h

theorem perform_of_applyAll {hazard : Hazard α} (hquiet : ∀ n step, hazard.during n step = none)
    {steps : List (Step α)} {f f' : File α} (h : f.applyAll steps = .ok f') (n : Nat) :
    perform hazard n steps f = (f', none) := by
  induction steps generalizing n f with
  | nil =>
    simp only [File.applyAll, Except.ok.injEq] at h
    rw [perform, h]
  | cons step rest ih =>
    simp only [File.applyAll] at h
    split at h
    · rename_i g hg
      simp only [perform, hquiet, hg]
      exact ih h (n + 1)
    · contradiction

/-- A property of files that every step keeps is kept up to the first step that goes wrong. -/
theorem perform_keeps {P : File α → Prop} {steps : List (Step α)}
    (hkeep : ∀ step ∈ steps, ∀ f f', P f → f.apply step = .ok f' → P f')
    (hazard : Hazard α) (n : Nat) {f : File α} (hf : P f) : P (perform hazard n steps f).1 := by
  induction steps generalizing n f with
  | nil => exact hf
  | cons step rest ih =>
    simp only [perform]
    split
    · exact hf
    · split
      · rename_i g hg
        exact ih (fun s hs => hkeep s (by simp [hs])) (n + 1) (hkeep step (by simp) f g hf hg)
      · exact hf

theorem apply_events_isSome {f f' : File α} {step : Step α} (hf : f.events.isSome = true)
    (h : f.apply step = .ok f') : f'.events.isSome = true := by
  cases step with
  | create name =>
    simp only [File.apply, File.create] at h
    split at h <;> simp at h
    subst h
    rfl
  | change name c =>
    simp only [File.apply, File.change] at h
    split at h
    · simp at h
    · obtain ⟨g, -, hg⟩ := bind_eq_ok.mp h
      cases hg
      rfl
  | rename name newName =>
    simp only [File.apply, File.rename] at h
    split at h
    · simp at h
    · split at h <;> simp at h
      subst h
      rfl
  | setCount n =>
    cases h
    exact hf
  | flush =>
    cases h
    exact hf

/-- A step does the same beside groups whose names it does not mention. -/
theorem apply_following {f : File α} (hf : f.events.isSome = true)
    {earlier : List (String × Group α)} {step : Step α}
    (h : ∀ name ∈ step.names, name ∉ Keyed.keys earlier) :
    (f.following earlier).apply step = (f.apply step).map (·.following earlier) := by
  obtain ⟨attributes, events⟩ := f
  obtain ⟨gs, rfl⟩ := Option.isSome_iff_exists.mp hf
  have hget {name : String} (hn : name ∉ Keyed.keys earlier) :
      Keyed.get? name (earlier ++ gs) = Keyed.get? name gs := Keyed.get?_append_right gs hn
  cases step with
  | create name =>
    have hn := h name (by simp [Step.names])
    simp only [File.apply, File.create, File.hasEvent, File.groups, File.following, Option.map_some,
      Option.getD_some, Keyed.contains, hget hn]
    by_cases hc : (Keyed.get? name gs).isSome = true <;> simp [hc, Except.map]
  | change name c =>
    have hn := h name (by simp [Step.names])
    simp only [File.apply, File.change, File.groups, File.following, Option.map_some,
      Option.getD_some, hget hn]
    cases Keyed.get? name gs with
    | none => rfl
    | some g =>
      cases hc : g.apply c with
      | ok g =>
        simp [hc, bind, Except.bind, Except.map, Keyed.put_append_right _ _ hn, pure, Except.pure]
      | error fault => simp [hc, bind, Except.bind, Except.map]
  | rename name newName =>
    have hn := h name (by simp [Step.names])
    have hm := h newName (by simp [Step.names])
    simp only [File.apply, File.rename, File.hasEvent, File.groups, File.following, Option.map_some,
      Option.getD_some, Keyed.contains, hget hn, hget hm]
    cases Keyed.get? name gs with
    | none => rfl
    | some g =>
      by_cases hc : (Keyed.get? newName gs).isSome = true
      · simp [hc, Except.map]
      · simp [hc, Except.map, Keyed.erase_append, Keyed.erase_of_not_mem hn]
  | setCount n => rfl
  | flush => rfl

theorem perform_following {hazard : Hazard α} {steps : List (Step α)} {f : File α}
    (hf : f.events.isSome = true) {earlier : List (String × Group α)}
    (h : ∀ step ∈ steps, ∀ name ∈ step.names, name ∉ Keyed.keys earlier) (n : Nat) :
    perform hazard n steps (f.following earlier) =
      ((perform hazard n steps f).1.following earlier, (perform hazard n steps f).2) := by
  induction steps generalizing n f with
  | nil => rfl
  | cons step rest ih =>
    simp only [perform]
    split
    · rfl
    · rw [apply_following hf (h step (by simp))]
      cases hg : f.apply step with
      | ok g => exact ih (apply_events_isSome hf hg) (fun s hs => h s (by simp [hs])) (n + 1)
      | error fault => rfl

end PixelTelescope.Run
