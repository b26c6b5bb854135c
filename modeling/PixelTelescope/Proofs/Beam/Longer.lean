import PixelTelescope.Beam.Events
import PixelTelescope.Proofs.Pool.Pulled

namespace PixelTelescope.Beam

open PixelTelescope.Geometry (Registry)

variable {σ α : Type} [Scalar α]

/-- Where a beam stands between two events. -/
structure Feed (σ : Type) where
  /-- How many events are still to come. -/
  left : Nat
  /-- The number of the next event. -/
  number : Int
  /-- The number of the next track. -/
  firstId : Nat
  state : σ

/-- A beam makes an event up when it is asked for one, and no sooner. -/
def Feed.pull (g : Generator σ α) (s : Settings α) (r : Registry α) :
    Pool.Pull (Feed σ) (Delivery α) := fun feed =>
  match feed.left with
  | 0 => (.finished, feed)
  | left + 1 =>
    match drawEvent g s r feed.firstId feed.state with
    | .error f => (.raised f, feed)
    | .ok ((messages, tracks), state) =>
      (.item (feed.number, messages),
        { left, number := feed.number + 1, firstId := feed.firstId + tracks, state })

def Feed.source (g : Generator σ α) (s : Settings α) (r : Registry α) (feed : Feed σ) :
    Source (Delivery α) :=
  eventsFrom g s r feed.left feed.number feed.firstId feed.state

variable {g : Generator σ α} {s : Settings α} {r : Registry α}

theorem Feed.pull_first (feed : Feed σ) :
    (Feed.pull g s r feed).1 = (feed.source g s r).draw 0 := by
  obtain ⟨left, number, firstId, state⟩ := feed
  cases left with
  | zero => rfl
  | succ left =>
    cases hdrawn : drawEvent g s r firstId state with
    | error f => simp [pull, source, eventsFrom, Source.draw, hdrawn]
    | ok drawn => simp [pull, source, eventsFrom, Source.draw, hdrawn]

/-- A beam that has come to its end, or cannot go on, stays there. -/
theorem Feed.pull_rest (feed : Feed σ) (n : Nat) :
    ((Feed.pull g s r feed).2.source g s r).draw n = (feed.source g s r).draw (n + 1) := by
  obtain ⟨left, number, firstId, state⟩ := feed
  cases left with
  | zero => rfl
  | succ left =>
    cases hdrawn : drawEvent g s r firstId state with
    | error f => simp [pull, source, eventsFrom, Source.draw, hdrawn]
    | ok drawn => simp [pull, source, eventsFrom, Pool.draw_cons, hdrawn]

/-- What a beam gives does not depend on when it is asked. -/
theorem Feed.supply_eq (feed : Feed σ) :
    (Feed.pull g s r).supply feed = (feed.source g s r).draw := by
  funext n
  induction n generalizing feed with
  | zero => exact feed.pull_first
  | succ n ih => rw [Pool.Pull.supply_succ, ih, pull_rest]

/-- A shorter run of events is the beginning of a longer one. -/
theorem eventsFrom_take {m n : Nat} (h : m ≤ n) (number : Int) (firstId : Nat) (state : σ) :
    (eventsFrom g s r m number firstId state).events =
      (eventsFrom g s r n number firstId state).events.take m := by
  induction m generalizing n number firstId state with
  | zero => rfl
  | succ m ih =>
    obtain ⟨n, rfl⟩ := Nat.exists_eq_succ_of_ne_zero (Nat.ne_of_gt (Nat.lt_of_lt_of_le m.succ_pos h))
    cases hdrawn : drawEvent g s r firstId state with
    | error f => simp [eventsFrom, hdrawn]
    | ok drawn =>
      simp [eventsFrom, hdrawn, ih (Nat.le_of_succ_le_succ h)]

theorem eventsFrom_length {n : Nat} {number : Int} {firstId : Nat} {state : σ}
    (h : (eventsFrom g s r n number firstId state).failure = none) :
    (eventsFrom g s r n number firstId state).events.length = n := by
  induction n generalizing number firstId state with
  | zero => rfl
  | succ n ih =>
    cases hdrawn : drawEvent g s r firstId state with
    | error f => simp [eventsFrom, hdrawn] at h
    | ok drawn =>
      simp only [eventsFrom, hdrawn] at h ⊢
      rw [List.length_cons, ih h]

/-- Events are numbered upwards. -/
theorem eventsFrom_increasing (n : Nat) (number : Int) (firstId : Nat) (state : σ) :
    ((eventsFrom g s r n number firstId state).events.map (·.1)).Pairwise (· < ·) ∧
      ∀ e ∈ (eventsFrom g s r n number firstId state).events, number ≤ e.1 := by
  induction n generalizing number firstId state with
  | zero => simp [eventsFrom]
  | succ n ih =>
    cases hdrawn : drawEvent g s r firstId state with
    | error f => simp [eventsFrom, hdrawn]
    | ok drawn =>
      obtain ⟨⟨messages, tracks⟩, next⟩ := drawn
      obtain ⟨hlater, hleast⟩ := ih (number + 1) (firstId + tracks) next
      simp only [eventsFrom, hdrawn, List.map_cons, List.pairwise_cons]
      refine ⟨⟨?_, hlater⟩, List.forall_mem_cons.mpr ⟨Int.le_refl _, ?_⟩⟩
      · intro k hk
        obtain ⟨e, he, rfl⟩ := List.mem_map.mp hk
        exact Int.lt_of_lt_of_le (Int.lt_succ number) (hleast e he)
      · intro e he
        exact Int.le_trans (Int.le_of_lt (Int.lt_succ number)) (hleast e he)

/-- The number of events that is asked for plays no part in how one of them is made up. -/
theorem eventsFrom_settings (count : Int) (n : Nat) (number : Int) (firstId : Nat) (state : σ) :
    eventsFrom g { s with events := count } r n number firstId state =
      eventsFrom g s r n number firstId state := by
  induction n generalizing number firstId state with
  | zero => rfl
  | succ n ih =>
    have hsame : drawEvent g { s with events := count } r firstId state =
      drawEvent g s r firstId state := rfl
    simp only [eventsFrom, hsame, ih]

end PixelTelescope.Beam
