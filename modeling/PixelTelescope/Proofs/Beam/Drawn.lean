import PixelTelescope.Proofs.Beam.Crossing
import PixelTelescope.Beam.Events

namespace PixelTelescope.Beam

open PixelTelescope.Geometry (Detector Registry)

variable {σ : Type}

/-- A draw that gives something from every state, and what is said of all that it gives. -/
def Draws {β : Type} (draw : Drawing σ β) (P : β → Prop) : Prop :=
  ∀ state, ∃ x next, draw state = .ok (x, next) ∧ P x

namespace Draws

variable {β γ : Type} {P : β → Prop} {Q : γ → Prop}

theorem pure {x : β} (h : P x) : Draws (Pure.pure x : Drawing σ β) P := fun state =>
  ⟨x, state, rfl, h⟩

theorem lift {x : β} {c : Except Failure β} (hc : c = .ok x) (h : P x) :
    Draws (StateT.lift c : Drawing σ β) P := by
  intro state
  refine ⟨x, state, ?_, h⟩
  rw [hc]
  rfl

theorem bind {draw : Drawing σ β} {f : β → Drawing σ γ} (h : Draws draw P)
    (hf : ∀ x, P x → Draws (f x) Q) : Draws (draw >>= f) Q := by
  intro state
  obtain ⟨x, next, hx, hP⟩ := h state
  obtain ⟨y, last, hy, hQ⟩ := hf x hP next
  refine ⟨y, last, ?_, hQ⟩
  show (draw state >>= fun (x, next) => f x next) = _
  rw [hx]
  exact hy

/-- What is drawn for each item of a list, one after the other. -/
theorem mapM {f : β → Drawing σ γ} {R : β → γ → Prop} {xs : List β}
    (h : ∀ x ∈ xs, Draws (f x) (R x)) : Draws (xs.mapM f) (List.Forall₂ R xs) := by
  induction xs with
  | nil => exact pure .nil
  | cons x rest ih =>
    rw [List.mapM_cons]
    refine (h x List.mem_cons_self).bind fun y hy => ?_
    refine (ih fun z hz => h z (List.mem_cons_of_mem _ hz)).bind fun ys hys => ?_
    exact pure (.cons hy hys)

end Draws

/-- A generator whose draws all give numbers, as far as a beam asks for them. -/
structure Generator.Steady (g : Generator σ ℝ) (timeSpread : ℝ) : Prop where
  count : ∀ mean, 0 ≤ mean → Draws (g.count mean) fun _ => True
  place : Draws (g.uniform 0.0 1.0) fun _ => True
  time : Draws (g.uniform 0.0 timeSpread) fun _ => True
  shift : Draws (g.normal 0.0 1.0) fun _ => True
  signal : Draws (g.gamma 4.0 5.0) fun _ => True

variable {g : Generator σ ℝ} {s : Settings ℝ} {r : Registry ℝ}

structure Crosses (tracks : List (Track ℝ)) (d : Detector ℝ) (m : Event.Message ℝ) : Prop where
  detector : m.detector = d.name
  hits : List.Forall₂ (Leaves d) tracks m.hits

theorem drawHit_leaves (hg : g.Steady s.timeSpread) {d : Detector ℝ} (hd : Crossable d)
    (t : Track ℝ) : Draws (drawHit g d t) (Leaves d t) := by
  refine hg.shift.bind fun shiftX _ => hg.shift.bind fun shiftY _ => hg.signal.bind fun signal _ => ?_
  obtain ⟨hit, hhit, hleaves⟩ := hitOf_leaves hd t shiftX shiftY signal
  exact .lift hhit hleaves

theorem drawMessage_crosses (hg : g.Steady s.timeSpread) {d : Detector ℝ} (hd : Crossable d)
    (tracks : List (Track ℝ)) : Draws (drawMessage g tracks d) (Crosses tracks d) := by
  obtain ⟨columns, rows, hpixels, -, -⟩ := hd.shaped.pixels
  have hpair : (liftM (pair d.model.pixels) : Except Failure _) = .ok (columns, rows) := by
    rw [hpixels]
    rfl
  refine Draws.bind (P := fun _ => True) (Draws.lift hpair trivial) fun _ _ => ?_
  refine (Draws.mapM fun t _ => drawHit_leaves hg hd t).bind fun hits hhits => ?_
  exact .pure ⟨rfl, hhits⟩

def placeTracks {α : Type} [Scalar α] (g : Generator σ α) (s : Settings α) (firstId n : Nat) :
    Drawing σ (List (Track α)) := do
  let places ← (List.range n).mapM fun _ => do
    let u ← g.uniform 0.0 1.0
    return (u, ← g.uniform 0.0 1.0)
  let times ← (List.range n).mapM fun _ => g.uniform 0.0 s.timeSpread
  return (places.zip times).zipIdx.map fun (((u, v), time), i) => ⟨firstId + i, u, v, time⟩

theorem drawTracks_eq (firstId : Nat) :
    drawTracks g s firstId = g.count s.meanTracks >>= placeTracks g s firstId := rfl

theorem placeTracks_numbered (hg : g.Steady s.timeSpread) (firstId n : Nat) :
    Draws (placeTracks g s firstId n) fun tracks => tracks.map (·.id) = List.range' firstId n := by
  have hplace : Draws (do let u ← g.uniform 0.0 1.0; return (u, ← g.uniform 0.0 1.0))
      fun _ => True :=
    hg.place.bind fun u _ => hg.place.bind fun v _ => .pure trivial
  refine (Draws.mapM fun _ _ => hplace).bind fun places hplaces => ?_
  refine (Draws.mapM fun _ _ => hg.time).bind fun times htimes => ?_
  refine .pure ?_
  have hlength : (places.zip times).length = n := by
    rw [List.length_zip, ← hplaces.length_eq, ← htimes.length_eq, List.length_range, Nat.min_self]
  have hids : ((places.zip times).zipIdx.map fun (((u, v), time), i) =>
      (⟨firstId + i, u, v, time⟩ : Track ℝ)).map (·.id) =
        ((places.zip times).zipIdx.map Prod.snd).map (firstId + ·) := by
    rw [List.map_map, List.map_map]
    rfl
  rw [hids, List.zipIdx_map_snd, hlength, List.map_add_range', Nat.add_zero]

/-- The tracks of an event are as many as were drawn, and are numbered on. -/
theorem drawEvent_crosses (hg : g.Steady s.timeSpread) (hmean : 0 ≤ s.meanTracks)
    (hr : ∀ d ∈ r.detectors, Crossable d) (firstId : Nat) (state : σ) :
    ∃ n counted messages next tracks, g.count s.meanTracks state = .ok (n, counted) ∧
      drawEvent g s r firstId state = .ok ((messages, n), next) ∧
      tracks.map (·.id) = List.range' firstId n ∧
      List.Forall₂ (Crosses tracks) r.detectors messages := by
  obtain ⟨n, counted, hcount, -⟩ := hg.count s.meanTracks hmean state
  obtain ⟨tracks, placed, htracks, hids⟩ := placeTracks_numbered hg firstId n counted
  obtain ⟨messages, next, hmessages, hcrosses⟩ :=
    Draws.mapM (fun d hd => drawMessage_crosses (s := s) hg (hr d hd) tracks) placed
  have hlength : tracks.length = n := by
    rw [← List.length_map (f := (·.id)), hids, List.length_range']
  refine ⟨n, counted, messages, next, tracks, hcount, ?_, hids, hcrosses⟩
  have hdrawn : drawTracks g s firstId state = .ok (tracks, placed) := by
    rw [drawTracks_eq]
    exact (bind_of_ok hcount _).trans htracks
  refine (bind_of_ok hdrawn _).trans ((bind_of_ok hmessages _).trans ?_)
  rw [← hlength]
  rfl

/-- Events as they are drawn one after the other, each with the number of its tracks. -/
inductive Drawn (g : Generator σ ℝ) (s : Settings ℝ) (r : Registry ℝ) :
    Int → Nat → σ → List (Nat × Delivery ℝ) → Prop where
  | done (number : Int) (firstId : Nat) (state : σ) : Drawn g s r number firstId state []
  | event {number : Int} {firstId n : Nat} {state counted next : σ}
      {messages : List (Event.Message ℝ)} {rest : List (Nat × Delivery ℝ)}
      (count : g.count s.meanTracks state = .ok (n, counted))
      (drawn : drawEvent g s r firstId state = .ok ((messages, n), next))
      (later : Drawn g s r (number + 1) (firstId + n) next rest) :
      Drawn g s r number firstId state ((n, number, messages) :: rest)

/-- No draw fails, so that all events are there. -/
theorem eventsFrom_drawn (hg : g.Steady s.timeSpread) (hmean : 0 ≤ s.meanTracks)
    (hr : ∀ d ∈ r.detectors, Crossable d) (k : Nat) (number : Int) (firstId : Nat) (state : σ) :
    ∃ drawn, Drawn g s r number firstId state drawn ∧ drawn.length = k ∧
      eventsFrom g s r k number firstId state = { events := drawn.map (·.2) } := by
  induction k generalizing number firstId state with
  | zero => exact ⟨[], .done number firstId state, rfl, rfl⟩
  | succ k ih =>
    obtain ⟨n, counted, messages, next, -, hcount, hdrawn, -, -⟩ :=
      drawEvent_crosses hg hmean hr firstId state
    obtain ⟨rest, hrest, hlength, hevents⟩ := ih (number + 1) (firstId + n) next
    refine ⟨(n, number, messages) :: rest, .event hcount hdrawn hrest, congrArg (· + 1) hlength, ?_⟩
    rw [eventsFrom, hdrawn]
    simp only [hevents]
    rfl

theorem Drawn.numbers {number : Int} {firstId : Nat} {state : σ} {drawn : List (Nat × Delivery ℝ)}
    (h : Drawn g s r number firstId state drawn) :
    drawn.map (·.2.1) = (List.range drawn.length).map fun (i : Nat) => number + i := by
  induction h with
  | done => rfl
  | event count drawn later ih =>
    rw [List.map_cons, ih, List.length_cons, List.range_succ_eq_map, List.map_cons, List.map_map]
    refine congrArg₂ List.cons (Int.add_zero _).symm (List.map_congr_left fun i _ => ?_)
    simp [Int.add_assoc, Int.add_comm 1]

/-- Every event starts with the first number that the tracks before it have left. -/
theorem Drawn.at {number : Int} {firstId : Nat} {state : σ}
    {before after : List (Nat × Delivery ℝ)} {e : Nat × Delivery ℝ}
    (h : Drawn g s r number firstId state (before ++ e :: after)) :
    ∃ own counted next, g.count s.meanTracks own = .ok (e.1, counted) ∧
      drawEvent g s r (firstId + (before.map (·.1)).sum) own = .ok ((e.2.2, e.1), next) := by
  induction before generalizing number firstId state with
  | nil =>
    cases h with
    | event count drawn later => exact ⟨state, _, _, count, drawn⟩
  | cons first rest ih =>
    cases h with
    | event count drawn later =>
      obtain ⟨own, counted, next, hcount, hdrawn⟩ := ih later
      refine ⟨own, counted, next, hcount, ?_⟩
      rw [List.map_cons, List.sum_cons, ← Nat.add_assoc]
      exact hdrawn

end PixelTelescope.Beam
