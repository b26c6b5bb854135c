import PixelTelescope.Proofs.Pool.Pulled

namespace PixelTelescope.Pool

open Relation (ReflTransGen)

variable {φ σ ε β : Type}

namespace Hall

def completed (h : Hall σ ε β) : Nat := h.handled.length - h.leaving.length

def unfinished (h : Hall σ ε β) : Nat :=
  h.queued.length + h.running.length + h.leaving.length

end Hall

structure Paced (supply : Nat → Draw ε) (threads : Nat) (h : Hall σ ε β) : Prop where
  items : (taken supply h.drawn).length = h.drawn
  room : h.pending ≤ window threads
  leaving : h.leaving.length ≤ h.handled.length
  /-- Also after a failure, when events that no thread has begun are taken back. -/
  ahead : h.drawn + h.leaving.length ≤ h.handled.length + window threads

variable {supply : Nat → Draw ε} {threads : Nat} {progress : Bool} {handle : ε → Act σ β} {s : σ}
  {h h' : Hall σ ε β} {pull : Pull φ ε} {feed feed' : φ}

theorem Paced.start (supply : Nat → Draw ε) (threads : Nat) (s : σ) :
    Paced supply threads ({ state := s } : Hall σ ε β) :=
  ⟨rfl, Nat.zero_le _, Nat.le_refl _, Nat.zero_le _⟩

/-- While events are handed out, each that was drawn is queued, begun or handled. -/
theorem Paced.drawn_eq (hp : Paced supply threads h) (hs : Sound supply handle progress s h)
    (hfilling : h.phase = .filling) :
    h.drawn = h.queued.length + h.running.length + h.handled.length := by
  have hstands := hs.stands
  rw [hfilling] at hstands
  cases hstands with
  | filling hk =>
    have hlength := hk.kept.length_eq
    rw [hp.items, List.length_append, List.length_append] at hlength
    exact hlength.symm

/-- There is room for the event that is drawn next. -/
theorem Paced.draws (hp : Paced supply threads h) (hs : Sound supply handle progress s h)
    (hfilling : h.phase = .filling) (hw : h.Wants threads) :
    h.drawn + h.leaving.length < h.handled.length + window threads := by
  have hdrawn := hp.drawn_eq hs hfilling
  have hroom := hw.2
  simp only [Hall.pending] at hroom
  omega

theorem Step.paced (hstep : Step supply threads progress handle h h')
    (hs : Sound supply handle progress s h) (hp : Paced supply threads h) :
    Paced supply threads h' := by
  obtain ⟨hitems, hroom, hleaving, hahead⟩ := id hp
  simp only [Hall.pending] at hroom
  cases hstep with
  | draw hfilling hw hd =>
    have hnext := hp.draws hs hfilling hw
    have hfree := hw.2
    simp only [Hall.pending] at hfree
    refine ⟨?_, ?_, hleaving, ?_⟩
    · simp only [taken, hd, Draw.items, List.length_append, List.length_singleton, hitems]
    · simp only [Hall.pending, List.length_append, List.length_singleton]
      omega
    · simp only
      omega
  | wait now later hfilling hw hne he =>
    have hlength := he.length_eq
    simp only [List.length_append] at hlength
    exact ⟨hitems, by simp only [Hall.pending]; omega, hleaving, hahead⟩
  | cancel before after hcancelling hq =>
    simp only [hq, List.length_append, List.length_cons] at hroom
    refine ⟨hitems, ?_, hleaving, hahead⟩
    simp only [Hall.pending, List.length_append]
    omega
  | start before after hq hf =>
    simp only [hq, List.length_append, List.length_cons] at hroom
    refine ⟨hitems, ?_, hleaving, hahead⟩
    simp only [Hall.pending, List.length_append, List.length_singleton]
    omega
  | handle before after hr =>
    simp only [hr, List.length_append, List.length_cons] at hroom
    refine ⟨hitems, ?_, ?_, ?_⟩
    · simp only [Hall.pending, List.length_append, List.length_singleton]
      omega
    · simp only [List.length_append, List.length_singleton]
      omega
    · simp only [List.length_append, List.length_singleton]
      omega
  | complete before after hl =>
    simp only [hl, List.length_append, List.length_cons] at hroom hleaving hahead
    refine ⟨hitems, ?_, ?_, ?_⟩
    · simp only [Hall.pending, List.length_append, List.length_singleton]
      omega
    · simp only [List.length_append]
      omega
    · simp only [List.length_append]
      omega
  | _ => exact ⟨hitems, hroom, hleaving, hahead⟩

theorem paced_steps (hthreads : 0 < threads)
    (hsteps : ReflTransGen (Step supply threads progress handle) { state := s } h) :
    Paced supply threads h := by
  induction hsteps with
  | refl => exact .start supply threads s
  | tail hbefore hstep ih =>
    exact hstep.paced ((sound_start supply handle progress s).steps hthreads hbefore) ih

theorem Paced.unfinished_le (hp : Paced supply threads h) : h.unfinished ≤ 2 * threads := by
  have hroom := hp.room
  simp only [Hall.pending, window] at hroom
  simp only [Hall.unfinished]
  omega

theorem Paced.drawn_le (hp : Paced supply threads h) :
    h.drawn ≤ h.completed + 2 * threads := by
  have hahead := hp.ahead
  have hleaving := hp.leaving
  simp only [window] at hahead
  simp only [Hall.completed]
  omega

/-- An event is drawn only where fewer than twice as many as there are threads are not done. -/
theorem Step.draw_lt (hstep : Step supply threads progress handle h h')
    (hdrawn : h'.drawn = h.drawn + 1) (hs : Sound supply handle progress s h)
    (hp : Paced supply threads h) : h.drawn < h.completed + 2 * threads := by
  have hleaving := hp.leaving
  cases hstep with
  | draw hfilling hw hd =>
    have hnext := hp.draws hs hfilling hw
    simp only [window] at hnext
    simp only [Hall.completed]
    omega
  | _ => exact absurd hdrawn (Nat.ne_of_lt (Nat.lt_succ_self _))

/-- What a run holds of the events that it has drawn, and what becomes of them. -/
structure LooksAhead (supply : Nat → Draw ε) (threads : Nat) (h : Hall σ ε β) : Prop where
  unfinished : h.unfinished ≤ 2 * threads
  ahead : h.drawn ≤ h.completed + 2 * threads
  /-- Every draw so far has given an event. -/
  items : (taken supply h.drawn).length = h.drawn
  /-- No event is queued, begun and handled more often than it was drawn. -/
  once : (h.queued ++ h.running ++ h.handled).Subperm (taken supply h.drawn)
  /-- A run that comes to a count has handled every event that there is, each once. -/
  all : ∀ n, h.phase = .closed (.ok n) → supply h.drawn = .finished ∧ n = h.drawn ∧
    h.handled.Perm (taken supply h.drawn)

theorem Paced.looksAhead (hp : Paced supply threads h) (hs : Sound supply handle progress s h) :
    LooksAhead supply threads h where
  unfinished := hp.unfinished_le
  ahead := hp.drawn_le
  items := hp.items
  once := hs.drawn
  all := by
    intro n hclosed
    obtain ⟨hd, hperm, hn, -⟩ := hs.closed_ok hclosed
    exact ⟨hd, by rw [hn, hperm.length_eq, hp.items], hperm⟩

/-- However the threads take turns, a feed is asked for an event only where there is room for it. -/
theorem looksAhead_of_pulled (hthreads : 0 < threads)
    (hrun : ReflTransGen (PulledStep pull threads progress handle) ({ state := s }, feed)
      (h, feed')) :
    LooksAhead (pull.supply feed) threads h ∧
      ∀ next, PulledStep pull threads progress handle (h, feed') next →
        next.1.drawn = h.drawn + 1 → h.drawn < h.completed + 2 * threads := by
  obtain ⟨hsteps, hfeed⟩ := steps_of_pulled hrun
  have hsound := (sound_start (pull.supply feed) handle progress s).steps hthreads hsteps
  have hpaced := paced_steps hthreads hsteps
  refine ⟨hpaced.looksAhead hsound, ?_⟩
  rintro ⟨next, feed''⟩ hnext hdrawn
  exact (hnext.step hfeed).1.draw_lt hdrawn hsound hpaced

end PixelTelescope.Pool
