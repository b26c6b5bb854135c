import Mathlib.Logic.Function.Iterate
import PixelTelescope.Proofs.Outcome
import PixelTelescope.Proofs.Pool.Batches
import PixelTelescope.Proofs.Pool.Serial

namespace PixelTelescope.Pool

open Relation (ReflTransGen)

variable {φ σ ε β : Type}

abbrev Pull (φ ε : Type) := φ → Draw ε × φ

namespace Pull

def after (pull : Pull φ ε) (feed : φ) (n : Nat) : φ := (fun feed => (pull feed).2)^[n] feed

def supply (pull : Pull φ ε) (feed : φ) (n : Nat) : Draw ε := (pull (pull.after feed n)).1

variable (pull : Pull φ ε) (feed : φ) (n : Nat)

theorem after_succ : pull.after feed (n + 1) = (pull (pull.after feed n)).2 :=
  Function.iterate_succ_apply' ..

theorem supply_succ : pull.supply feed (n + 1) = pull.supply (pull feed).2 n := by
  rw [supply, supply, after, after, Function.iterate_succ_apply]

end Pull

/-- What can happen next where events are pulled from a feed while others are in hand: the feed is
asked when an event is drawn, and is not moved by anything else. -/
inductive PulledStep (pull : Pull φ ε) (threads : Nat) (progress : Bool) (handle : ε → Act σ β) :
    Hall σ ε β × φ → Hall σ ε β × φ → Prop
  | draw {h h' : Hall σ ε β} {feed : φ}
      (step : Step (fun _ => (pull feed).1) threads progress handle h h')
      (drawn : h'.drawn = h.drawn + 1) :
      PulledStep pull threads progress handle (h, feed) (h', (pull feed).2)
  | other {h h' : Hall σ ε β} {feed : φ}
      (step : Step (fun _ => (pull feed).1) threads progress handle h h')
      (drawn : h'.drawn = h.drawn) :
      PulledStep pull threads progress handle (h, feed) (h', feed)

/-- A run in the calling thread. It pulls an event once the one before it has been handled. -/
inductive Alone (pull : Pull φ ε) (handle : ε → Act σ β) :
    φ → σ → Except Failure Nat → σ → Prop
  | finished {feed : φ} {s : σ} (pulled : (pull feed).1 = .finished) :
      Alone pull handle feed s (.ok 0) s
  | raised {feed : φ} {s : σ} {f : Failure} (pulled : (pull feed).1 = .raised f) :
      Alone pull handle feed s (.error f) s
  | failed {feed : φ} {s : σ} {e : ε} {f : Failure} (pulled : (pull feed).1 = .item e)
      (failed : (handle e s).result = .error f) :
      Alone pull handle feed s (.error f) (handle e s).state
  | handled {feed : φ} {s last : σ} {e : ε} {x : β} {result : Except Failure Nat}
      (pulled : (pull feed).1 = .item e) (handled : (handle e s).result = .ok x)
      (later : Alone pull handle (pull feed).2 (handle e s).state result last) :
      Alone pull handle feed s (result.map (· + 1)) last

/-- The runs that pull from a feed, with their results and what they leave: without threads, or with
threads that take turns in any way. -/
inductive Drains (pull : Pull φ ε) (feed : φ) (progress : Bool) (handle : ε → Act σ β) (s : σ) :
    Nat → Except Failure Nat → σ → Prop
  | alone {result : Except Failure Nat} {last : σ} (run : Alone pull handle feed s result last) :
      Drains pull feed progress handle s 0 result last
  | threads {threads : Nat} {result : Except Failure Nat} {last : Hall σ ε β} {feed' : φ}
      (positive : 0 < threads)
      (run : ReflTransGen (PulledStep pull threads progress handle) ({ state := s }, feed)
        (last, feed'))
      (closed : last.phase = .closed result) :
      Drains pull feed progress handle s threads result last.state

variable {pull : Pull φ ε} {feed feed' : φ} {supply supply' : Nat → Draw ε} {threads : Nat}
  {progress : Bool} {handle : ε → Act σ β} {s last : σ} {h h' : Hall σ ε β} {source : Source ε}

/-- A step looks no further than at the next draw. -/
theorem Step.congr (hstep : Step supply threads progress handle h h')
    (hs : supply h.drawn = supply' h.drawn) : Step supply' threads progress handle h h' := by
  cases hstep with
  | draw hp hw hd => exact .draw hp hw (hs ▸ hd)
  | exhaust hp hw hd => exact .exhaust hp hw (hs ▸ hd)
  | stop hp hw hd => exact .stop hp hw (hs ▸ hd)
  | leave hp hw hn => exact .leave hp hw hn
  | wait now later hp hw hne he => exact .wait now later hp hw hne he
  | count hp => exact .count hp
  | fail hp => exact .fail hp
  | refill hp => exact .refill hp
  | cancel before after hp hq => exact .cancel before after hp hq
  | join hp hq => exact .join hp hq
  | close hp hi => exact .close hp hi
  | start before after hq hf => exact .start before after hq hf
  | handle before after hr => exact .handle before after hr
  | complete before after hl => exact .complete before after hl

theorem Step.draws (hstep : Step supply threads progress handle h h') :
    h'.drawn = h.drawn + 1 ∨ h'.drawn = h.drawn := by
  cases hstep with
  | draw hp hw hd => exact .inl rfl
  | _ => exact .inr rfl

/-- A feed that has been asked as often as events were drawn gives the next one. -/
theorem PulledStep.step {first : φ}
    (hstep : PulledStep pull threads progress handle (h, feed) (h', feed'))
    (hf : feed = pull.after first h.drawn) :
    Step (pull.supply first) threads progress handle h h' ∧
      feed' = pull.after first h'.drawn := by
  cases hstep with
  | draw step drawn =>
    refine ⟨step.congr (congrArg (fun feed => (pull feed).1) hf), ?_⟩
    rw [drawn, Pull.after_succ, hf]
  | other step drawn =>
    refine ⟨step.congr (congrArg (fun feed => (pull feed).1) hf), ?_⟩
    rw [drawn, hf]

theorem Step.pulled (hstep : Step (pull.supply feed) threads progress handle h h') :
    PulledStep pull threads progress handle (h, pull.after feed h.drawn)
      (h', pull.after feed h'.drawn) := by
  have hnext : Step (fun _ => (pull (pull.after feed h.drawn)).1) threads progress handle h h' :=
    hstep.congr rfl
  rcases hstep.draws with hd | hd
  · rw [hd, Pull.after_succ]
    exact .draw hnext hd
  · rw [hd]
    exact .other hnext hd

/-- Whatever threads do while a feed is asked, the events come as if it had been asked for all of
them beforehand. -/
theorem steps_of_pulled {last : Hall σ ε β × φ}
    (hrun : ReflTransGen (PulledStep pull threads progress handle) ({ state := s }, feed) last) :
    ReflTransGen (Step (pull.supply feed) threads progress handle) { state := s } last.1 ∧
      last.2 = pull.after feed last.1.drawn := by
  -- along the run the feed has been asked exactly as often as events were drawn
  induction hrun with
  | refl => exact ⟨.refl, rfl⟩
  | tail _ hstep ih =>
    obtain ⟨hsteps, hfeed⟩ := ih
    obtain ⟨hnext, hmoved⟩ := hstep.step hfeed
    exact ⟨hsteps.tail hnext, hmoved⟩

theorem pulled_of_steps {last : Hall σ ε β}
    (hrun : ReflTransGen (Step (pull.supply feed) threads progress handle) { state := s } last) :
    ReflTransGen (PulledStep pull threads progress handle) ({ state := s }, feed)
      (last, pull.after feed last.drawn) := by
  induction hrun with
  | refl => exact .refl
  | tail _ hstep ih => exact ih.tail hstep.pulled

theorem draw_cons (e : ε) (rest : List ε) (failure : Option Failure) (n : Nat) :
    Source.draw ⟨e :: rest, failure⟩ (n + 1) = Source.draw ⟨rest, failure⟩ n := by
  simp only [Source.draw, List.getElem?_cons_succ]

theorem supply_rest {e : ε} {rest : List ε} {failure : Option Failure}
    (hs : pull.supply feed = Source.draw ⟨e :: rest, failure⟩) :
    pull.supply (pull feed).2 = Source.draw ⟨rest, failure⟩ := by
  funext n
  rw [← Pull.supply_succ, hs, draw_cons]

/-- A run in the calling thread that comes to a count has handled all events in their order. -/
theorem Alone.ok {events : List ε} {failure : Option Failure} {n : Nat}
    (hrun : Alone pull handle feed s (.ok n) last)
    (hs : pull.supply feed = Source.draw ⟨events, failure⟩) :
    failure = none ∧ (∀ o ∈ outcomes handle s events, ∃ x, o.2 = .ok x) ∧
      last = settle handle s events ∧ n = events.length := by
  -- the count is not fixed in the induction: every event behind the first lowers it
  generalize hresult : (Except.ok n : Except Failure Nat) = result at hrun
  induction hrun generalizing events n with
  | finished pulled =>
    have hd := draw_finished ((congrFun hs 0).symm.trans pulled)
    obtain rfl := List.length_eq_zero_iff.mp (Nat.le_zero.mp hd.1)
    exact ⟨hd.2, by simp [outcomes], rfl, Except.ok.inj hresult⟩
  | raised pulled => contradiction
  | failed pulled failed => contradiction
  | @handled feed s last e x result pulled handled later ih =>
    obtain ⟨m, rfl, hm⟩ := map_eq_ok.mp hresult.symm
    have hfirst := (congrFun hs 0).symm.trans pulled
    cases events with
    | nil => cases failure <;> contradiction
    | cons d rest =>
      obtain rfl := Draw.item.inj hfirst
      obtain ⟨hnone, hall, hlast, hlength⟩ := ih (supply_rest hs) rfl
      refine ⟨hnone, ?_, hlast, ?_⟩
      · exact List.forall_mem_cons.mpr ⟨⟨x, handled⟩, hall⟩
      · rw [← hm, hlength, List.length_cons]

/-- An event that is handled is counted, and what comes behind it is a run of its own. -/
theorem inOrder_cons {e : ε} {x : β} (hx : (handle e s).result = .ok x) (rest : List ε)
    (failure : Option Failure) :
    (inOrder handle ⟨e :: rest, failure⟩ s).state =
        (inOrder handle ⟨rest, failure⟩ (handle e s).state).state ∧
      (inOrder handle ⟨e :: rest, failure⟩ s).result =
        (inOrder handle ⟨rest, failure⟩ (handle e s).state).result.map (· + 1) := by
  simp only [inOrder, serial, bind, Act.andThen, hx]
  cases (serial handle rest (handle e s).state).result with
  | error f => exact ⟨rfl, rfl⟩
  | ok n => cases failure <;> exact ⟨rfl, rfl⟩

/-- The run that handles a list of events is the one that pulls them. -/
theorem alone_inOrder (events : List ε) {failure : Option Failure}
    (hs : pull.supply feed = Source.draw ⟨events, failure⟩) :
    Alone pull handle feed s (inOrder handle ⟨events, failure⟩ s).result
      (inOrder handle ⟨events, failure⟩ s).state := by
  induction events generalizing feed s with
  | nil =>
    cases failure with
    | none => exact .finished (congrFun hs 0)
    | some f => exact .raised (congrFun hs 0)
  | cons e rest ih =>
    have hpulled : (pull feed).1 = .item e := congrFun hs 0
    cases hx : (handle e s).result with
    | error f =>
      have hnone : ∀ o ∈ outcomes handle s [], ∃ x, o.2 = .ok x := by simp [outcomes]
      have hevents : (⟨e :: rest, failure⟩ : Source ε).events = [] ++ e :: rest := rfl
      obtain ⟨hstate, hresult⟩ := inOrder_failed hevents hnone hx
      rw [hstate, hresult]
      exact .failed hpulled hx
    | ok x =>
      obtain ⟨hstate, hresult⟩ := inOrder_cons hx rest failure
      rw [hstate, hresult]
      exact .handled hpulled hx (ih (supply_rest hs))

/-- A run that comes to a count, be it alone or on threads, has handled all events of its source,
each once. -/
theorem Drains.ok {n : Nat} (hrun : Drains pull feed progress handle s threads (.ok n) last)
    (hs : pull.supply feed = source.draw) :
    source.failure = none ∧ ∃ es : List ε, es.Perm source.events ∧
      (∀ o ∈ outcomes handle s es, ∃ x, o.2 = .ok x) ∧ last = settle handle s es := by
  generalize hresult : (Except.ok n : Except Failure Nat) = result at hrun
  cases hrun with
  | alone run =>
    subst hresult
    obtain ⟨hnone, hall, hlast, -⟩ := run.ok hs
    exact ⟨hnone, source.events, .refl _, hall, hlast⟩
  | @threads _ _ last feed' positive run closed =>
    subst hresult
    obtain ⟨hsteps, -⟩ := steps_of_pulled run
    rw [hs] at hsteps
    have hsound := (sound_start source.draw handle progress s).steps positive hsteps
    obtain ⟨hd, hperm, -, hall⟩ := hsound.closed_ok closed
    obtain ⟨hlength, hfailure⟩ := draw_finished hd
    rw [taken_draw, List.take_of_length_le hlength] at hperm
    exact ⟨hfailure, last.handled, hperm, hall, hsound.state⟩

/-- A run of the pool that comes to a count is one of those that pull its events from a feed. -/
theorem process_drains {processors : Option Int} {workers : Workers} {n : Nat}
    (hs : pull.supply feed = source.draw)
    (hok : (process processors workers progress handle source s).result = .ok n) :
    Drains pull feed progress handle s (workers.resolve processors) (.ok n)
      (process processors workers progress handle source s).state := by
  by_cases hthreads : workers.resolve processors = 0
  · rw [process_serial hthreads] at hok ⊢
    rw [hthreads, ← hok]
    exact .alone (alone_inOrder source.events hs)
  · have hsome := Nat.pos_of_ne_zero hthreads
    rw [process_threaded hsome rfl] at hok ⊢
    cases progress with
    | true =>
      -- under a bar no run on threads comes to a count
      rw [(threaded_bar _ handle source s).1] at hok
      contradiction
    | false =>
      obtain ⟨last, hsteps, hclosed, hstate⟩ := threaded_scheduled hsome handle source s
      rw [← hs] at hsteps
      rw [← hstate, ← hok]
      exact .threads hsome (pulled_of_steps hsteps) hclosed

end PixelTelescope.Pool
