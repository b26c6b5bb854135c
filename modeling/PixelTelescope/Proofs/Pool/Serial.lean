import PixelTelescope.Proofs.Act
import PixelTelescope.Proofs.Pool.Account

namespace PixelTelescope.Pool

variable {σ ε β : Type} {handle : ε → Act σ β} {s : σ}

/-- Where no event fails, all of them are handled and counted. -/
theorem serial_ok {es : List ε} (h : ∀ o ∈ outcomes handle s es, ∃ x, o.2 = .ok x) :
    (serial handle es s).state = settle handle s es ∧
      (serial handle es s).result = .ok es.length := by
  induction es generalizing s with
  | nil => exact ⟨rfl, rfl⟩
  | cons e rest ih =>
    obtain ⟨x, hx⟩ := h (e, (handle e s).result) List.mem_cons_self
    obtain ⟨hstate, hresult⟩ := ih fun o ho => h o (List.mem_cons_of_mem _ ho)
    obtain ⟨hs₁, hr₁⟩ := Act.bind_ok (a := handle e)
      (f := fun _ => do return (← serial handle rest) + 1) hx
    obtain ⟨hs₂, hr₂⟩ := Act.bind_ok (f := fun n => pure (n + 1)) hresult
    exact ⟨hs₁.trans (hs₂.trans hstate), hr₁.trans hr₂⟩

theorem inOrder_ok {source : Source ε} (hfailure : source.failure = none)
    (h : ∀ o ∈ outcomes handle s source.events, ∃ x, o.2 = .ok x) :
    (inOrder handle source s).state = settle handle s source.events ∧
      (inOrder handle source s).result = .ok source.events.length := by
  obtain ⟨hstate, hresult⟩ := serial_ok h
  obtain ⟨hs, hr⟩ := Act.bind_ok (f := ofSource source.failure) hresult
  rw [hfailure] at hs hr
  rw [inOrder, hfailure]
  exact ⟨hs.trans hstate, hr⟩

/-- The events before one that fails are handled, and those behind it are not. -/
theorem serial_failed {es : List ε} (rest : List ε) {e : ε} {f : Failure}
    (h : ∀ o ∈ outcomes handle s es, ∃ x, o.2 = .ok x)
    (hf : (handle e (settle handle s es)).result = .error f) :
    (serial handle (es ++ e :: rest) s).state = settle handle s (es ++ [e]) ∧
      (serial handle (es ++ e :: rest) s).result = .error f := by
  induction es generalizing s with
  | nil => exact Act.bind_error (a := handle e) hf
  | cons d before ih =>
    obtain ⟨x, hx⟩ := h (d, (handle d s).result) List.mem_cons_self
    obtain ⟨hstate, hresult⟩ := ih (fun o ho => h o (List.mem_cons_of_mem _ ho)) hf
    obtain ⟨hs₁, hr₁⟩ := Act.bind_ok (a := handle d)
      (f := fun _ => do return (← serial handle (before ++ e :: rest)) + 1) hx
    obtain ⟨hs₂, hr₂⟩ := Act.bind_error (f := fun n => pure (n + 1)) hresult
    exact ⟨hs₁.trans (hs₂.trans hstate), hr₁.trans hr₂⟩

theorem inOrder_failed {source : Source ε} {es rest : List ε} {e : ε} {f : Failure}
    (hevents : source.events = es ++ e :: rest)
    (h : ∀ o ∈ outcomes handle s es, ∃ x, o.2 = .ok x)
    (hf : (handle e (settle handle s es)).result = .error f) :
    (inOrder handle source s).state = settle handle s (es ++ [e]) ∧
      (inOrder handle source s).result = .error f := by
  obtain ⟨hstate, hresult⟩ := serial_failed rest h hf
  rw [← hevents] at hstate hresult
  obtain ⟨hs, hr⟩ := Act.bind_error (f := ofSource source.failure) hresult
  exact ⟨hs.trans hstate, hr⟩

/-- A source that fails has had all its events handled. -/
theorem inOrder_raised {source : Source ε} {f : Failure} (hfailure : source.failure = some f)
    (h : ∀ o ∈ outcomes handle s source.events, ∃ x, o.2 = .ok x) :
    (inOrder handle source s).state = settle handle s source.events ∧
      (inOrder handle source s).result = .error f := by
  obtain ⟨hstate, hresult⟩ := serial_ok h
  obtain ⟨hs, hr⟩ := Act.bind_ok (f := ofSource source.failure) hresult
  rw [hfailure] at hs hr
  rw [inOrder, hfailure]
  exact ⟨hs.trans hstate, hr⟩

variable {processors : Option Int} {workers : Workers} {threads : Nat}

theorem process_serial (h : workers.resolve processors = 0) (progress : Bool)
    (source : Source ε) :
    process processors workers progress handle source = inOrder handle source := by
  simp only [process, h]

theorem process_threaded (hthreads : 0 < threads) (h : workers.resolve processors = threads)
    (progress : Bool) (source : Source ε) :
    process processors workers progress handle source =
      threaded threads progress handle source := by
  obtain ⟨n, rfl⟩ := Nat.exists_eq_succ_of_ne_zero (Nat.ne_of_gt hthreads)
  simp only [process, h]

end PixelTelescope.Pool
