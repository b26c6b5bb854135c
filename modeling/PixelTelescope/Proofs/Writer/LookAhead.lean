import PixelTelescope.Proofs.Pool.LookAhead
import PixelTelescope.Proofs.Writer.Threads

namespace PixelTelescope.Writer

open Relation (ReflTransGen)

variable {φ : Type} {w : Writer} {p : Progress} {e : Delivery Float} {es : List (Delivery Float)}
  {threads : Nat}

theorem write_counts (hopen : p.desk.session.stage = .open) {r : Event.Record Float}
    (hok : (w.write e.1 e.2 p).result = .ok r) :
    (w.write e.1 e.2 p).state.desk.session.stage = .open ∧
      (w.write e.1 e.2 p).state.desk.session.count = p.desk.session.count + 1 := by
  cases hb : w.builder.build e.1 e.2 with
  | error f =>
    rw [(write_unbuilt hb).2] at hok
    contradiction
  | ok q =>
    obtain ⟨hstate, hresult⟩ := write_built (p := p) hb
    obtain ⟨hput, hsession, -⟩ := Run.Desk.put_session hopen q
    rw [hresult] at hok
    obtain ⟨_, hstored, -⟩ := map_eq_ok.mp hok
    obtain ⟨hstage, hcount⟩ := Run.Session.append_count (hput.symm.trans hstored)
    rw [hstate, hsession]
    exact ⟨hstage.trans hopen, hcount⟩

/-- Events that do not fail are all counted. -/
theorem settle_counts (hopen : p.desk.session.stage = .open)
    (hok : ∀ o ∈ Pool.outcomes (fun e => w.write e.1 e.2) p es, ∃ r, o.2 = .ok r) :
    (Pool.settle (fun e => w.write e.1 e.2) p es).desk.session.count =
      p.desk.session.count + es.length := by
  induction es generalizing p with
  | nil => rfl
  | cons e rest ih =>
    obtain ⟨⟨r, hr⟩, hrest⟩ := List.forall_mem_cons.mp hok
    obtain ⟨hstage, hcount⟩ := write_counts hopen hr
    rw [Pool.settle, ih hstage hrest, hcount, List.length_cons]
    omega

/-- Threads never look further ahead than twice their number, be the source endless or not: an
event is drawn only where there is room for it, is begun at most once, and is handled exactly once
where the run comes to a count. -/
theorem threaded_look_ahead_is_bounded (w : Writer) (pull : Pool.Pull φ (Delivery Float))
    (feed : φ) (hopen : p.desk.session.stage = .open) (hthreads : 0 < threads) :
    (∀ h feed', ReflTransGen (Pool.PulledStep pull threads false fun e => w.write e.1 e.2)
        ({ state := p }, feed) (h, feed') →
      Pool.LooksAhead (pull.supply feed) threads h ∧
      (∀ next, Pool.PulledStep pull threads false (fun e => w.write e.1 e.2) (h, feed') next →
        next.1.drawn = h.drawn + 1 → h.drawn < h.completed + 2 * threads) ∧
      ((∀ o ∈ Pool.outcomes (fun e => w.write e.1 e.2) p h.handled, ∃ r, o.2 = .ok r) →
        h.drawn + p.desk.session.count ≤ h.state.desk.session.count + 2 * threads)) ∧
    ∀ (source : Source (Delivery Float)) (processors : Option Int) (workers : Workers),
      pull.supply feed = source.draw → workers.resolve processors = threads →
      ∃ last feed', ReflTransGen (Pool.PulledStep pull threads false fun e => w.write e.1 e.2)
          ({ state := p }, feed) (last, feed') ∧
        last.phase = .closed (w.process processors (.ok workers) false source p).result ∧
        last.state = (w.process processors (.ok workers) false source p).state := by
  refine ⟨fun h feed' hrun => ?_, fun source processors workers hsupply hworkers => ?_⟩
  · obtain ⟨hahead, hdraws⟩ := Pool.looksAhead_of_pulled hthreads hrun
    refine ⟨hahead, hdraws, fun hok => ?_⟩
    obtain ⟨hsteps, -⟩ := Pool.steps_of_pulled hrun
    have hsound := (Pool.sound_start _ _ false p).steps hthreads hsteps
    have hpaced := (Pool.paced_steps hthreads hsteps).ahead
    rw [hsound.state, settle_counts hopen hok]
    simp only [Pool.window] at hpaced
    omega
  · obtain ⟨hstate, hresult⟩ := process_eq (w := w) hopen processors workers false source
    rw [Pool.process_threaded hthreads hworkers] at hstate hresult
    obtain ⟨last, hsteps, hclosed, hlast⟩ := Pool.threaded_scheduled hthreads
      (fun e => w.write e.1 e.2) source p
    rw [← hsupply] at hsteps
    exact ⟨last, _, Pool.pulled_of_steps hsteps, by rw [hclosed, hresult], by rw [hlast, hstate]⟩

def endless : Pool.Pull Int (Delivery Float) := fun n => (.item (planeEvent n 7), n + 1)

/-- One thread draws two events of a feed that never ends, and no third before one is done. -/
theorem threaded_look_ahead_is_bounded_endless :
    ∃ h feed', ReflTransGen (Pool.PulledStep endless 1 false fun e => planeWriter.write e.1 e.2)
        ({ state := (planeWriter.start emptyDesk).state }, 5) (h, feed') ∧
      h.queued = [planeEvent 5 7, planeEvent 6 7] ∧ h.drawn = 2 ∧ h.completed = 0 ∧
      ∀ next, Pool.PulledStep endless 1 false (fun e => planeWriter.write e.1 e.2) (h, feed') next →
        next.1.drawn ≠ 3 := by
  have hopen : (planeWriter.start emptyDesk).state.desk.session.stage = .open := rfl
  have hfirst : Pool.PulledStep endless 1 false (fun e => planeWriter.write e.1 e.2)
      ({ state := (planeWriter.start emptyDesk).state }, 5)
      ({ state := (planeWriter.start emptyDesk).state, drawn := 1,
         queued := [planeEvent 5 7] }, 6) :=
    .draw (.draw rfl ⟨rfl, by decide⟩ rfl) rfl
  have hsecond : Pool.PulledStep endless 1 false (fun e => planeWriter.write e.1 e.2)
      ({ state := (planeWriter.start emptyDesk).state, drawn := 1, queued := [planeEvent 5 7] }, 6)
      ({ state := (planeWriter.start emptyDesk).state, drawn := 2,
         queued := [planeEvent 5 7, planeEvent 6 7] }, 7) :=
    .draw (.draw rfl ⟨rfl, by decide⟩ rfl) rfl
  have hrun := (ReflTransGen.single hfirst).tail hsecond
  obtain ⟨-, hdraws, -⟩ :=
    (threaded_look_ahead_is_bounded planeWriter endless 5 hopen Nat.one_pos).1 _ _ hrun
  exact ⟨_, _, hrun, rfl, rfl, rfl, fun next hnext hthird =>
    absurd (hdraws next hnext hthird) (by decide)⟩

end PixelTelescope.Writer
