import PixelTelescope.Proofs.Pool.Account

namespace PixelTelescope.Pool

variable {σ ε β : Type}

/-- What the thread that hands the events out has left to do, in steps. -/
def Phase.weight (exhausted : Bool) : Phase ε β → Nat
  | .filling => 3 + if exhausted then 0 else 1
  | .reporting left => 4 + left.length + if exhausted then 0 else 1
  | .cancelling _ => 2
  | .joining _ => 1
  | .closed _ => 0

def Hall.weight (source : Source ε) (h : Hall σ ε β) : Nat :=
  7 * (source.events.length - h.drawn) + 6 * h.queued.length + 5 * h.running.length +
    4 * h.leaving.length + 3 * h.ended.length + h.phase.weight h.exhausted

theorem drawn_lt {source : Source ε} {n : Nat} {e : ε} (h : source.draw n = .item e) :
    n < source.events.length := by
  unfold Source.draw at h
  split at h
  · rename_i he
    exact (List.getElem?_eq_some_iff.mp he).1
  · split at h <;> contradiction

theorem draw_finished {source : Source ε} {n : Nat} (h : source.draw n = .finished) :
    source.events.length ≤ n ∧ source.failure = none := by
  unfold Source.draw at h
  split at h
  · contradiction
  · rename_i he
    split at h
    · contradiction
    · rename_i hf
      exact ⟨List.getElem?_eq_none_iff.mp he, hf⟩

theorem draw_raised {source : Source ε} {n : Nat} {f : Failure} (h : source.draw n = .raised f) :
    source.failure = some f := by
  unfold Source.draw at h
  split at h
  · contradiction
  · split at h
    · rename_i hf
      rw [hf, Draw.raised.inj h]
    · contradiction

variable {source : Source ε} {handle : ε → Act σ β} {progress : Bool} {s : σ} {threads : Nat}
  {h h' : Hall σ ε β}

/-- Every step uses something up. -/
theorem Step.weight_lt (hs : Step source.draw threads progress handle h h') :
    h'.weight source < h.weight source := by
  cases hs with
  | draw hp hw hd =>
    have hlt := drawn_lt hd
    simp only [Hall.weight, hp, List.length_append, List.length_singleton]
    omega
  | exhaust hp hw hd =>
    simp only [Hall.weight, hp, Phase.weight, hw.1, ↓reduceIte, Bool.false_eq_true]
    omega
  | stop hp hw hd =>
    simp only [Hall.weight, hp, Phase.weight, hw.1, Bool.false_eq_true, ↓reduceIte]
    omega
  | leave hp hw hn =>
    simp only [Hall.weight, hp, Phase.weight]
    omega
  | wait now later hp hw hne he =>
    have hlength := he.length_eq
    have hpos := List.length_pos_iff.mpr hne
    simp only [Hall.weight, hp, Phase.weight, List.length_append] at hlength ⊢
    omega
  | count hp =>
    cases progress
    · simp only [Hall.weight, hp, Phase.weight, List.length_cons, Bool.false_eq_true, ↓reduceIte]
      omega
    · simp only [Hall.weight, hp, Phase.weight, List.length_cons, ↓reduceIte]
      omega
  | fail hp =>
    simp only [Hall.weight, hp, Phase.weight, List.length_cons]
    omega
  | refill hp =>
    simp only [Hall.weight, hp, Phase.weight, List.length_nil]
    omega
  | cancel before after hp hq =>
    simp only [Hall.weight, hq, List.length_append, List.length_cons]
    omega
  | join hp hq =>
    simp only [Hall.weight, hp, Phase.weight]
    omega
  | close hp hi =>
    simp only [Hall.weight, hp, Phase.weight]
    omega
  | start before after hq hf =>
    simp only [Hall.weight, hq, List.length_append, List.length_cons, List.length_nil]
    omega
  | handle before after hr =>
    simp only [Hall.weight, hr, List.length_append, List.length_cons, List.length_nil]
    omega
  | complete before after hl =>
    simp only [Hall.weight, hl, List.length_append, List.length_cons, List.length_nil]
    omega

variable {supply : Nat → Draw ε}

/-- Where a thread has something to do, one can go on. -/
theorem Hall.busy_step (hthreads : 0 < threads) (hbusy : ¬ h.Idle) :
    ∃ h', Step supply threads progress handle h h' := by
  cases hl : h.leaving with
  | cons o rest => exact ⟨_, .complete [] rest hl⟩
  | nil =>
    cases hr : h.running with
    | cons e rest => exact ⟨_, .handle [] rest hr⟩
    | nil =>
      cases hq : h.queued with
      | cons e rest => exact ⟨_, .start [] rest hq (by simpa [hl, hr] using hthreads)⟩
      | nil => exact absurd ⟨hq, hr, hl⟩ hbusy

/-- A run does not get stuck before it is over. -/
theorem Hall.can_step (hthreads : 0 < threads) (hclosed : ∀ result, h.phase ≠ .closed result) :
    ∃ h', Step supply threads progress handle h h' := by
  cases hp : h.phase with
  | filling =>
    by_cases hw : h.Wants threads
    · cases hd : supply h.drawn with
      | item e => exact ⟨_, .draw hp hw hd⟩
      | finished => exact ⟨_, .exhaust hp hw hd⟩
      | raised f => exact ⟨_, .stop hp hw hd⟩
    · by_cases hi : h.Idle
      · by_cases he : h.ended = []
        · obtain ⟨hq, hr, hl⟩ := hi
          exact ⟨_, .leave hp hw (by simp [pending, hq, hr, hl, he])⟩
        · exact ⟨_, .wait _ [] hp hw he (by simp)⟩
      · exact busy_step hthreads hi
  | reporting left =>
    cases left with
    | nil => exact ⟨_, .refill hp⟩
    | cons o rest =>
      obtain ⟨e, x⟩ := o
      cases x with
      | ok x => exact ⟨_, .count hp⟩
      | error f => exact ⟨_, .fail hp⟩
  | cancelling f =>
    cases hq : h.queued with
    | nil => exact ⟨_, .join hp hq⟩
    | cons e rest => exact ⟨_, .cancel [] rest hp hq⟩
  | joining result =>
    by_cases hi : h.Idle
    · exact ⟨_, .close hp hi⟩
    · exact busy_step hthreads hi
  | closed result => exact absurd hp (hclosed result)

/-- Nothing happens once a run is over: no event is handled after it has given its result. -/
theorem Sound.closed_final (hs : Sound supply handle progress s h) {result : Except Failure Nat}
    (hp : h.phase = .closed result) : ¬ Step supply threads progress handle h h' := by
  have hstands := hs.stands
  rw [hp] at hstands
  cases hstands with
  | closed _ hi =>
    obtain ⟨hq, hr, hl⟩ := hi
    intro hstep
    cases hstep <;> simp_all

theorem Sound.inevitable (hthreads : 0 < threads) (hs : Sound source.draw handle progress s h) :
    Inevitable (fun h => Sound source.draw handle progress s h ∧ ∃ result, h.phase = .closed result)
      (Step source.draw threads progress handle) h := by
  induction hw : h.weight source using Nat.strongRecOn generalizing h with
  | ind weight ih =>
    by_cases hclosed : ∃ result, h.phase = .closed result
    · obtain ⟨result, hp⟩ := hclosed
      exact .now ⟨hs, result, hp⟩ fun h' => hs.closed_final hp
    · refine .later (Hall.can_step hthreads fun result hp => hclosed ⟨result, hp⟩) ?_
      intro h' hstep
      exact ih _ (hw ▸ hstep.weight_lt) (hstep.sound hthreads hs) rfl

theorem Inevitable.mono {P Q : Hall σ ε β → Prop} {step : Hall σ ε β → Hall σ ε β → Prop}
    (hi : Inevitable P step h) (hpq : ∀ h, P h → Q h) : Inevitable Q step h := by
  induction hi with
  | now hp hend => exact .now (hpq _ hp) hend
  | later hnext _ ih => exact .later hnext ih

/-- However the threads take turns, the run ends, and with such a result and state. -/
def OnEverySchedule (threads : Nat) (progress : Bool) (handle : ε → Act σ β) (source : Source ε)
    (s : σ) (P : Except Failure Nat → σ → Prop) : Prop :=
  Inevitable (fun h => ∃ result, h.phase = .closed result ∧ P result h.state)
    (Step source.draw threads progress handle) { state := s }

/-- Threads that take turns leave what handling events one after the other leaves, be it in another
order; and all of them, unless the run ends in a failure of an event or of the source. -/
theorem onEverySchedule (hthreads : 0 < threads) {P : Except Failure Nat → σ → Prop}
    (hok : ∀ es : List ε, es.Perm source.events → source.failure = none →
      (∀ o ∈ outcomes handle s es, ∃ x, o.2 = .ok x) → P (.ok es.length) (settle handle s es))
    (herror : ∀ (es : List ε) (f : Failure), es.Subperm source.events →
      (source.failure = some f ∨ ∃ e, (e, .error f) ∈ outcomes handle s es) →
      P (.error f) (settle handle s es)) :
    OnEverySchedule threads false handle source s P := by
  refine ((sound_start source.draw handle false s).inevitable hthreads).mono ?_
  rintro h ⟨hs, result, hp⟩
  refine ⟨result, hp, ?_⟩
  rw [hs.state]
  cases result with
  | ok n =>
    obtain ⟨hd, hperm, hn, hall⟩ := hs.closed_ok hp
    obtain ⟨hlength, hfailure⟩ := draw_finished hd
    rw [taken_draw, List.take_of_length_le hlength] at hperm
    exact hn ▸ hok _ hperm hfailure hall
  | error f =>
    have hdrawn := hs.drawn
    rw [taken_draw] at hdrawn
    have hhandled := (List.sublist_append_right _ h.handled).subperm.trans hdrawn
    refine herror _ f (hhandled.trans (List.take_sublist _ _).subperm) ?_
    rcases hs.closed_error hp with hraised | hevent | ⟨hbar, -⟩
    · exact .inl (draw_raised hraised)
    · exact .inr hevent
    · contradiction

end PixelTelescope.Pool
