import Mathlib.Logic.Relation
import PixelTelescope.Pool.Process

namespace PixelTelescope

inductive Draw (ε : Type) where
  | item (e : ε)
  | finished
  | raised (f : Failure)

variable {σ ε β : Type}

def Draw.items : Draw ε → List ε
  | .item e => [e]
  | _ => []

def Source.draw (source : Source ε) (drawn : Nat) : Draw ε :=
  match source.events[drawn]? with
  | some e => .item e
  | none =>
    match source.failure with
    | some f => .raised f
    | none => .finished

namespace Pool

def taken (supply : Nat → Draw ε) : Nat → List ε
  | 0 => []
  | n + 1 => taken supply n ++ (supply n).items

abbrev Outcome (ε β : Type) := ε × Except Failure β

inductive Phase (ε β : Type) where
  /-- It hands out events, or waits for some to be done. -/
  | filling
  /-- It looks at events that are done. -/
  | reporting (left : List (Outcome ε β))
  /-- It takes back the events that no thread has begun, after a failure. -/
  | cancelling (f : Failure)
  /-- It waits for the threads to end. -/
  | joining (result : Except Failure Nat)
  | closed (result : Except Failure Nat)

structure Hall (σ ε β : Type) where
  state : σ
  drawn : Nat := 0
  exhausted : Bool := false
  /-- Events that no thread has begun. -/
  queued : List ε := []
  /-- Events that a thread has begun. -/
  running : List ε := []
  /-- Handled events that are not known as done yet. -/
  leaving : List (Outcome ε β) := []
  /-- Events that are done and have not been looked at. -/
  ended : List (Outcome ε β) := []
  /-- All events that were handled, in that order. -/
  handled : List ε := []
  /-- How many events have been seen to be done without a failure. -/
  done : Nat := 0
  phase : Phase ε β := .filling

namespace Hall

def pending (h : Hall σ ε β) : Nat :=
  h.queued.length + h.running.length + h.leaving.length + h.ended.length

def Wants (h : Hall σ ε β) (threads : Nat) : Prop :=
  h.exhausted = false ∧ h.pending < window threads

def Idle (h : Hall σ ε β) : Prop := h.queued = [] ∧ h.running = [] ∧ h.leaving = []

end Hall

/-- What can happen next. The first eleven are about the thread that hands the events out; the last
three are about the threads that handle them, each with any of the events that it applies to. -/
inductive Step (supply : Nat → Draw ε) (threads : Nat) (progress : Bool) (handle : ε → Act σ β)
    (h : Hall σ ε β) : Hall σ ε β → Prop
  | draw {e : ε} (hp : h.phase = .filling) (hw : h.Wants threads)
      (hd : supply h.drawn = .item e) :
      Step supply threads progress handle h
        { h with drawn := h.drawn + 1, queued := h.queued ++ [e] }
  | exhaust (hp : h.phase = .filling) (hw : h.Wants threads)
      (hd : supply h.drawn = .finished) :
      Step supply threads progress handle h { h with exhausted := true }
  | stop {f : Failure} (hp : h.phase = .filling) (hw : h.Wants threads)
      (hd : supply h.drawn = .raised f) :
      Step supply threads progress handle h { h with phase := .cancelling f }
  | leave (hp : h.phase = .filling) (hw : ¬ h.Wants threads) (hn : h.pending = 0) :
      Step supply threads progress handle h { h with phase := .joining (.ok h.done) }
  | wait (now later : List (Outcome ε β)) (hp : h.phase = .filling) (hw : ¬ h.Wants threads)
      (hne : now ≠ []) (he : h.ended.Perm (now ++ later)) :
      Step supply threads progress handle h { h with ended := later, phase := .reporting now }
  | count {e : ε} {x : β} {left : List (Outcome ε β)}
      (hp : h.phase = .reporting ((e, .ok x) :: left)) :
      Step supply threads progress handle h
        { h with
          done := h.done + 1
          phase := if progress then .cancelling .progressBar else .reporting left }
  | fail {e : ε} {f : Failure} {left : List (Outcome ε β)}
      (hp : h.phase = .reporting ((e, .error f) :: left)) :
      Step supply threads progress handle h { h with phase := .cancelling f }
  | refill (hp : h.phase = .reporting []) :
      Step supply threads progress handle h { h with phase := .filling }
  | cancel {f : Failure} {e : ε} (before after : List ε) (hp : h.phase = .cancelling f)
      (hq : h.queued = before ++ e :: after) :
      Step supply threads progress handle h { h with queued := before ++ after }
  | join {f : Failure} (hp : h.phase = .cancelling f) (hq : h.queued = []) :
      Step supply threads progress handle h { h with phase := .joining (.error f) }
  | close {result : Except Failure Nat} (hp : h.phase = .joining result) (hi : h.Idle) :
      Step supply threads progress handle h
        { h with phase := .closed (if progress then .error .progressBar else result) }
  | start {e : ε} (before after : List ε) (hq : h.queued = before ++ e :: after)
      (hf : h.running.length + h.leaving.length < threads) :
      Step supply threads progress handle h
        { h with queued := before ++ after, running := h.running ++ [e] }
  | handle {e : ε} (before after : List ε) (hr : h.running = before ++ e :: after) :
      Step supply threads progress handle h
        { h with
          state := (handle e h.state).state
          running := before ++ after
          leaving := h.leaving ++ [(e, (handle e h.state).result)]
          handled := h.handled ++ [e] }
  | complete {o : Outcome ε β} (before after : List (Outcome ε β))
      (hl : h.leaving = before ++ o :: after) :
      Step supply threads progress handle h
        { h with leaving := before ++ after, ended := h.ended ++ [o] }

/-- Whatever happens next, and next after that, it comes to an end, and then this holds. -/
inductive Inevitable (P : Hall σ ε β → Prop) (step : Hall σ ε β → Hall σ ε β → Prop) :
    Hall σ ε β → Prop
  | now {h : Hall σ ε β} (hp : P h) (hend : ∀ h', ¬ step h h') : Inevitable P step h
  | later {h : Hall σ ε β} (hnext : ∃ h', step h h')
      (hall : ∀ h', step h h' → Inevitable P step h') : Inevitable P step h

theorem Inevitable.of_reached {P : Hall σ ε β → Prop} {step : Hall σ ε β → Hall σ ε β → Prop}
    {h last : Hall σ ε β} (hi : Inevitable P step h) (hr : Relation.ReflTransGen step h last)
    (hend : ∀ h', ¬ step last h') : P last := by
  induction hr using Relation.ReflTransGen.head_induction_on with
  | refl =>
    cases hi with
    | now hp _ => exact hp
    | later hnext _ =>
      obtain ⟨h', hs⟩ := hnext
      exact absurd hs (hend h')
  | head hs _ ih =>
    cases hi with
    | now _ hend' => exact absurd hs (hend' _)
    | later _ hall => exact ih (hall _ hs)

end Pool

end PixelTelescope
