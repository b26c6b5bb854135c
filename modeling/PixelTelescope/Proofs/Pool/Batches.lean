import PixelTelescope.Proofs.Act
import PixelTelescope.Proofs.Pool.Ending

namespace PixelTelescope.Pool

open Relation (ReflTransGen)

variable {σ ε β : Type}

def firstFailure : List (Outcome ε β) → Option Failure
  | [] => none
  | (_, .ok _) :: rest => firstFailure rest
  | (_, .error f) :: _ => some f

theorem batch_eq (handle : ε → Act σ β) (es : List ε) (s : σ) :
    (batch handle es s).state = settle handle s es ∧
      (batch handle es s).result = .ok (firstFailure (outcomes handle s es)) := by
  induction es generalizing s with
  | nil => exact ⟨rfl, rfl⟩
  | cons e rest ih =>
    obtain ⟨hstate, hresult⟩ := ih (handle e s).state
    cases he : (handle e s).result with
    | ok x =>
      simp [batch, bind, Act.andThen, Act.attempt, pure, Act.succeed, he, hstate, hresult, settle,
        outcomes, firstFailure]
    | error f =>
      simp [batch, bind, Act.andThen, Act.attempt, pure, Act.succeed, he, hstate, hresult, settle,
        outcomes, firstFailure]

variable {supply : Nat → Draw ε} {threads : Nat} {progress : Bool} {handle : ε → Act σ β}

/-- As many events are drawn as there is room for. -/
theorem steps_draw (es : List ε) {h : Hall σ ε β} (hp : h.phase = .filling)
    (he : h.exhausted = false) (hroom : h.pending + es.length ≤ window threads)
    (hd : ∀ i, ∀ hi : i < es.length, supply (h.drawn + i) = .item es[i]) :
    ReflTransGen (Step supply threads progress handle) h
      { h with drawn := h.drawn + es.length, queued := h.queued ++ es } := by
  induction es generalizing h with
  | nil => simpa using ReflTransGen.refl
  | cons e rest ih =>
    have hw : h.Wants threads := ⟨he, by simp only [List.length_cons] at hroom; omega⟩
    have hrest := ih (h := { h with drawn := h.drawn + 1, queued := h.queued ++ [e] }) hp he
      (by simp only [Hall.pending, List.length_append, List.length_cons, List.length_nil] at hroom ⊢
          omega)
      (by intro i hi
          have hnext := hd (i + 1) (by simpa using hi)
          simpa [Nat.add_assoc, Nat.add_comm 1 i] using hnext)
    have hall := ReflTransGen.head (.draw hp hw (hd 0 (by simp))) hrest
    simpa [Nat.add_assoc, Nat.add_comm 1] using hall

/-- One thread can do all the work, event after event. -/
theorem steps_work (hthreads : 0 < threads) {es : List ε} {h : Hall σ ε β} (hq : h.queued = es)
    (hr : h.running = []) (hl : h.leaving = []) :
    ReflTransGen (Step supply threads progress handle) h
      { h with
        queued := []
        state := settle handle h.state es
        handled := h.handled ++ es
        ended := h.ended ++ outcomes handle h.state es } := by
  obtain ⟨state, drawn, exhausted, queued, running, leaving, ended, handled, done, phase⟩ := h
  simp only at hq hr hl
  subst hq hr hl
  induction queued generalizing state ended handled with
  | nil => simpa [settle, outcomes] using ReflTransGen.refl
  | cons e rest ih =>
    refine ReflTransGen.head (.start [] rest rfl (by simpa using hthreads)) ?_
    refine ReflTransGen.head (.handle [] [] rfl) ?_
    refine ReflTransGen.head (.complete [] [] rfl) ?_
    simpa [settle, outcomes] using ih (handle e state).state
      (ended ++ [(e, (handle e state).result)]) (handled ++ [e])

theorem steps_report {left : List (Outcome ε β)} {h : Hall σ ε β} (hp : h.phase = .reporting left)
    (hn : firstFailure left = none) :
    ReflTransGen (Step supply threads false handle) h
      { h with done := h.done + left.length, phase := .reporting [] } := by
  obtain ⟨state, drawn, exhausted, queued, running, leaving, ended, handled, done, phase⟩ := h
  simp only at hp
  subst hp
  induction left generalizing done with
  | nil => exact ReflTransGen.refl
  | cons o rest ih =>
    obtain ⟨e, x⟩ := o
    cases x with
    | ok x =>
      refine ReflTransGen.head (.count rfl) ?_
      simpa [Nat.add_assoc, Nat.add_comm 1] using ih hn (done + 1)
    | error f => simp [firstFailure] at hn

theorem steps_report_failure {left : List (Outcome ε β)} {h : Hall σ ε β} {f : Failure}
    (hp : h.phase = .reporting left) (hf : firstFailure left = some f) :
    ∃ n, ReflTransGen (Step supply threads false handle) h
      { h with done := n, phase := .cancelling f } := by
  obtain ⟨state, drawn, exhausted, queued, running, leaving, ended, handled, done, phase⟩ := h
  simp only at hp
  subst hp
  induction left generalizing done with
  | nil => simp [firstFailure] at hf
  | cons o rest ih =>
    obtain ⟨e, x⟩ := o
    cases x with
    | ok x =>
      obtain ⟨n, hn⟩ := ih hf (done + 1)
      exact ⟨n, ReflTransGen.head (.count rfl) hn⟩
    | error g =>
      obtain rfl : g = f := by simpa [firstFailure] using hf
      exact ⟨done, ReflTransGen.single (.fail rfl)⟩

/-- After a failure there is nothing left to do where no event is queued. -/
theorem steps_close {f : Failure} {h : Hall σ ε β} (hp : h.phase = .cancelling f) (hi : h.Idle) :
    ReflTransGen (Step supply threads false handle) h { h with phase := .closed (.error f) } :=
  ReflTransGen.head (.join hp hi.1) (ReflTransGen.single (.close rfl hi))

theorem steps_leave {h : Hall σ ε β} (hp : h.phase = .filling) (he : h.exhausted = true)
    (hn : h.pending = 0) :
    ReflTransGen (Step supply threads false handle) h { h with phase := .closed (.ok h.done) } :=
  ReflTransGen.head (.leave hp (fun hw => by simp [hw.1] at he) hn)
    (ReflTransGen.single (.close rfl (Hall.idle_of_pending hn)))

/-- All queued events are done before any is looked at. -/
theorem steps_wait (hthreads : 0 < threads) {h : Hall σ ε β} (hp : h.phase = .filling)
    (hw : ¬ h.Wants threads) (hne : h.queued ≠ []) (hr : h.running = []) (hl : h.leaving = [])
    (he : h.ended = []) :
    ReflTransGen (Step supply threads progress handle) h
      { h with
        queued := []
        state := settle handle h.state h.queued
        handled := h.handled ++ h.queued
        phase := .reporting (outcomes handle h.state h.queued) } := by
  obtain ⟨state, drawn, exhausted, queued, running, leaving, ended, handled, done, phase⟩ := h
  simp only at hp hr hl he hne
  subst hp hr hl he
  refine (steps_work hthreads rfl rfl rfl).trans (ReflTransGen.single ?_)
  refine .wait _ [] rfl ?_ ?_ (by simp)
  · simpa [Hall.Wants, Hall.pending] using hw
  · intro hnil
    have hlength := congrArg List.length hnil
    exact hne (List.length_eq_zero_iff.mp (by simpa using hlength))

def between (s : σ) (drawn done : Nat) (handled : List ε) : Hall σ ε β :=
  { state := s, drawn, handled, done }

def Leads (supply : Nat → Draw ε) (threads : Nat) (handle : ε → Act σ β) (h : Hall σ ε β)
    (after : After σ Nat) : Prop :=
  ∃ last, ReflTransGen (Step supply threads false handle) h last ∧
    last.phase = .closed after.result ∧ last.state = after.state

theorem Leads.of_steps {h h' : Hall σ ε β} {after : After σ Nat}
    (hs : ReflTransGen (Step supply threads false handle) h h')
    (hl : Leads supply threads handle h' after) : Leads supply threads handle h after := by
  obtain ⟨last, hsteps, hlast⟩ := hl
  exact ⟨last, hs.trans hsteps, hlast⟩

theorem Leads.failure {h : Hall σ ε β} {after : After σ Nat} {f : Failure}
    (hp : h.phase = .cancelling f) (hi : h.Idle) (hr : after.result = .error f)
    (hs : h.state = after.state) : Leads supply threads handle h after :=
  ⟨_, steps_close hp hi, by rw [hr], hs⟩

theorem Leads.report_failure {left : List (Outcome ε β)} {h : Hall σ ε β} {after : After σ Nat}
    {f : Failure} (hp : h.phase = .reporting left) (hf : firstFailure left = some f) (hi : h.Idle)
    (hr : after.result = .error f) (hs : h.state = after.state) :
    Leads supply threads handle h after := by
  obtain ⟨n, hsteps⟩ := steps_report_failure hp hf
  exact .of_steps hsteps (.failure rfl hi hr hs)

theorem Leads.congr {h : Hall σ ε β} {after other : After σ Nat} (hs : after.state = other.state)
    (hr : after.result = other.result) (hl : Leads supply threads handle h other) :
    Leads supply threads handle h after := by
  obtain ⟨last, hsteps, hp, hstate⟩ := hl
  exact ⟨last, hsteps, by rw [hp, hr], by rw [hstate, hs]⟩

def afterBatch (size : Nat) (handle : ε → Act σ β) (failure : Option Failure) (rounds : Nat)
    (now later : List ε) (n : Nat) (failed : Option Failure) : Act σ Nat :=
  if now.length < size then
    match failure, failed with
    | some f, _ => .fail f
    | none, some f => .fail f
    | none, none => .succeed (n + now.length)
  else
    match failed with
    | some f => .fail f
    | none => batches size handle failure rounds later (n + now.length)

theorem batches_succ (size : Nat) (handle : ε → Act σ β) (failure : Option Failure) (rounds : Nat)
    (events : List ε) (n : Nat) :
    batches size handle failure (rounds + 1) events n =
      (batch handle (events.take size) >>=
        afterBatch size handle failure rounds (events.take size) (events.drop size) n) := by
  simp only [batches, List.splitAt_eq]
  rfl

section

variable {source : Source ε} {s : σ} {d n : Nat} {handled now later : List ε} {rounds : Nat}

/-- Where there are fewer events left than there is room for, the source ends the run. -/
theorem Leads.short (hthreads : 0 < threads) (hshort : now.length < window threads)
    (hlast : source.events[d + now.length]? = none) :
    Leads source.draw threads handle
      { between s d n handled with drawn := d + now.length, queued := now }
      (afterBatch (window threads) handle source.failure rounds now later n
        (firstFailure (outcomes handle s now)) (settle handle s now)) := by
  have hwants : Hall.Wants ({ between s d n handled with
      drawn := d + now.length, queued := now } : Hall σ ε β) threads :=
    ⟨rfl, by simpa [between, Hall.pending] using hshort⟩
  simp only [afterBatch, hshort, ↓reduceIte]
  cases hfailure : source.failure with
  | some f =>
    have hraised : source.draw (d + now.length) = .raised f := by
      simp [Source.draw, hlast, hfailure]
    refine Leads.of_steps (ReflTransGen.head (.stop rfl hwants hraised)
      (steps_work hthreads rfl rfl rfl)) ?_
    exact .failure rfl ⟨rfl, rfl, rfl⟩ rfl rfl
  | none =>
    have hfinished : source.draw (d + now.length) = .finished := by
      simp [Source.draw, hlast, hfailure]
    refine Leads.of_steps (ReflTransGen.single (.exhaust rfl hwants hfinished)) ?_
    by_cases hempty : now = []
    · subst hempty
      exact ⟨_, steps_leave rfl rfl rfl, rfl, rfl⟩
    · refine Leads.of_steps
        (steps_wait hthreads rfl (by simp [Hall.Wants]) hempty rfl rfl rfl) ?_
      cases hf : firstFailure (outcomes handle s now) with
      | some f => exact .report_failure rfl hf ⟨rfl, rfl, rfl⟩ rfl rfl
      | none =>
        refine Leads.of_steps ((steps_report rfl hf).tail (.refill rfl)) ?_
        exact ⟨_, steps_leave rfl rfl rfl, by simp [between, Act.succeed], rfl⟩

/-- Where a batch takes all the room, the run goes on with the next if none of its events failed. -/
theorem Leads.full (hthreads : 0 < threads) (hfull : now.length = window threads)
    (hrest : Leads source.draw threads handle
      (between (settle handle s now) (d + now.length) (n + now.length) (handled ++ now))
      (batches (window threads) handle source.failure rounds later (n + now.length)
        (settle handle s now))) :
    Leads source.draw threads handle
      { between s d n handled with drawn := d + now.length, queued := now }
      (afterBatch (window threads) handle source.failure rounds now later n
        (firstFailure (outcomes handle s now)) (settle handle s now)) := by
  have hempty : now ≠ [] := by
    refine List.length_pos_iff.mp ?_
    simp only [hfull, window]
    omega
  simp only [afterBatch, hfull, Nat.lt_irrefl, ↓reduceIte]
  refine Leads.of_steps (steps_wait hthreads rfl
    (by simp [Hall.Wants, Hall.pending, between, hfull]) hempty rfl rfl rfl) ?_
  cases hf : firstFailure (outcomes handle s now) with
  | some f => exact .report_failure rfl hf ⟨rfl, rfl, rfl⟩ rfl rfl
  | none =>
    refine Leads.of_steps ((steps_report rfl hf).tail (.refill rfl)) ?_
    simpa [between, hfull] using hrest

end

theorem batches_scheduled (hthreads : 0 < threads) {source : Source ε} (rounds : Nat)
    {events : List ε} {d : Nat} (hd : source.events.drop d = events)
    (hrounds : events.length < rounds) (s : σ) (n : Nat) (handled : List ε) :
    Leads source.draw threads handle (between s d n handled)
      (batches (window threads) handle source.failure rounds events n s) := by
  induction rounds generalizing events d s n handled with
  | zero => omega
  | succ rounds ih =>
    have hsize : 0 < window threads := by simp only [window]; omega
    obtain ⟨now, hnow⟩ : ∃ now, now = events.take (window threads) := ⟨_, rfl⟩
    have hlength : now.length = min (window threads) events.length := by simp [hnow]
    have hget : ∀ i, source.events[d + i]? = events[i]? := by
      intro i
      rw [← hd, List.getElem?_drop]
    have hdraws : ∀ i, ∀ hi : i < now.length, source.draw (d + i) = .item now[i] := by
      intro i hi
      have hi' : i < events.length := by omega
      simp only [Source.draw, hget, List.getElem?_eq_getElem hi', hnow, List.getElem_take]
    refine Leads.of_steps (steps_draw now rfl rfl
      (by simp only [between, Hall.pending, List.length_nil]; omega) hdraws) ?_
    obtain ⟨hstate, hresult⟩ := batch_eq handle now s
    rw [batches_succ, ← hnow]
    obtain ⟨hafter, hfound⟩ := Act.bind_ok
      (f := afterBatch (window threads) handle source.failure rounds now
        (events.drop (window threads)) n) hresult
    refine Leads.congr hafter hfound ?_
    rw [hstate]
    by_cases hshort : now.length < window threads
    · refine .short hthreads hshort ?_
      rw [hget, List.getElem?_eq_none_iff]
      omega
    · have hfull : now.length = window threads := by omega
      refine .full hthreads hfull (ih ?_ ?_ _ _ _)
      · rw [hfull, ← hd, List.drop_drop]
      · simp only [List.length_drop]
        omega

/-- The run that takes its events batch by batch is one of those that threads can make of it. -/
theorem threaded_scheduled (hthreads : 0 < threads) (handle : ε → Act σ β) (source : Source ε)
    (s : σ) :
    Leads source.draw threads handle { state := s } (threaded threads false handle source s) :=
  batches_scheduled hthreads _ (d := 0) rfl (Nat.lt_succ_self _) s 0 []

/-- What holds on every schedule holds of the run that takes its events batch by batch. -/
theorem OnEverySchedule.threaded {source : Source ε} {s : σ} {P : Except Failure Nat → σ → Prop}
    (hthreads : 0 < threads) (h : OnEverySchedule threads false handle source s P) :
    P (threaded threads false handle source s).result
      (threaded threads false handle source s).state := by
  obtain ⟨last, hsteps, hp, hs⟩ := threaded_scheduled hthreads handle source s
  have hsound := (sound_start source.draw handle false s).steps hthreads hsteps
  obtain ⟨result, hclosed, hP⟩ := h.of_reached hsteps fun h' => hsound.closed_final hp
  rw [hp] at hclosed
  rw [← hs, Phase.closed.inj hclosed]
  exact hP

section Bar

variable {source : Source ε} {s : σ} {h h' : Hall σ ε β}

/-- A run that is over has ended in the failure that its progress bar causes. -/
def Hall.Barred (h : Hall σ ε β) : Prop :=
  ∀ result, h.phase = .closed result → result = .error .progressBar

/-- The bar is looked at once more on the way out, whatever the run was about to come to. -/
theorem Step.barred (hstep : Step supply threads true handle h h') (hb : h.Barred) :
    h'.Barred := by
  intro result hclosed
  cases hstep with
  | close hp hi => exact (Phase.closed.inj hclosed).symm
  | draw hp hw hd => exact hb result hclosed
  | exhaust hp hw hd => exact hb result hclosed
  | cancel before after hp hq => exact hb result hclosed
  | start before after hq hf => exact hb result hclosed
  | handle before after hr => exact hb result hclosed
  | complete before after hl => exact hb result hclosed
  | _ => cases hclosed

theorem Inevitable.and_kept {P Q : Hall σ ε β → Prop} {step : Hall σ ε β → Hall σ ε β → Prop}
    (hi : Inevitable P step h) (hq : Q h) (hkeep : ∀ h h', step h h' → Q h → Q h') :
    Inevitable (fun h => P h ∧ Q h) step h := by
  induction hi with
  | now hp hend => exact .now ⟨hp, hq⟩ hend
  | later hnext _ ih => exact .later hnext fun h' hstep => ih h' hstep (hkeep _ h' hstep hq)

/-- With a progress bar no schedule ends in a count. What is left is what handling some of the
events one after the other leaves. -/
theorem onEverySchedule_bar (hthreads : 0 < threads) {P : σ → Prop}
    (hsettled : ∀ es : List ε, es.Subperm source.events → P (settle handle s es)) :
    OnEverySchedule threads true handle source s
      fun result q => result = .error .progressBar ∧ P q := by
  have hstart : ({ state := s } : Hall σ ε β).Barred := by
    intro result hp
    cases hp
  refine (((sound_start source.draw handle true s).inevitable hthreads).and_kept hstart
    fun _ _ hstep => hstep.barred).mono ?_
  rintro h ⟨⟨hs, result, hp⟩, hbarred⟩
  refine ⟨result, hp, hbarred result hp, ?_⟩
  have hdrawn := hs.drawn
  rw [taken_draw] at hdrawn
  rw [hs.state]
  exact hsettled _ (((List.sublist_append_right _ h.handled).subperm.trans hdrawn).trans
    (List.take_sublist _ _).subperm)

/-- The run that takes its events batch by batch does not get beyond its first batch. -/
theorem threaded_bar (threads : Nat) (handle : ε → Act σ β) (source : Source ε) (s : σ) :
    (threaded threads true handle source s).result = .error .progressBar ∧
      (threaded threads true handle source s).state =
        settle handle s (source.events.take (window threads)) := by
  obtain ⟨hstate, hresult⟩ := batch_eq handle (source.events.take (window threads)) s
  obtain ⟨hs, hr⟩ := Act.bind_ok (f := fun _ => (.fail .progressBar : Act σ Nat)) hresult
  exact ⟨hr, hs.trans hstate⟩

end Bar

end PixelTelescope.Pool
