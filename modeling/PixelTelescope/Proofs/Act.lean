import PixelTelescope.Act

namespace PixelTelescope.Act

variable {σ β γ : Type} {a : Act σ β} {f : β → Act σ γ} {s : σ}

/-- What was found is gone on with. -/
theorem bind_ok {x : β} (h : (a s).result = .ok x) :
    ((a >>= f) s).state = (f x (a s).state).state ∧
      ((a >>= f) s).result = (f x (a s).state).result := by
  simp [bind, andThen, h]

/-- After a failure nothing more is done. -/
theorem bind_error {e : Failure} (h : (a s).result = .error e) :
    ((a >>= f) s).state = (a s).state ∧ ((a >>= f) s).result = .error e := by
  simp [bind, andThen, h]

theorem of_bind_ok {y : γ} (h : ((a >>= f) s).result = .ok y) :
    ∃ x, (a s).result = .ok x ∧ (f x (a s).state).result = .ok y ∧
      ((a >>= f) s).state = (f x (a s).state).state := by
  cases hr : (a s).result with
  | ok x =>
    obtain ⟨hstate, hresult⟩ := bind_ok (f := f) hr
    exact ⟨x, rfl, hresult ▸ h, hstate⟩
  | error e =>
    rw [(bind_error hr).2] at h
    contradiction

/-- What is logged last by what is gone on with is logged last. -/
theorem bind_last {x : β} {entry : Entry} (h : (a s).result = .ok x)
    (hl : (f x (a s).state).entries.getLast? = some entry) :
    ((a >>= f) s).entries.getLast? = some entry := by
  simp [bind, andThen, h, hl]

/-- What both parts keep, the whole keeps. -/
theorem bind_keeps {δ : Type} {g : σ → δ} (ha : ∀ s, g (a s).state = g s)
    (hf : ∀ x s, g (f x s).state = g s) (s : σ) : g ((a >>= f) s).state = g s := by
  cases hr : (a s).result with
  | ok x => rw [(bind_ok hr).1, hf, ha]
  | error e => rw [(bind_error hr).1, ha]

end PixelTelescope.Act
