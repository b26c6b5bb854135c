import Mathlib.Data.List.Perm.Subperm
import PixelTelescope.Proofs.Pool.Schedule

namespace PixelTelescope.Pool

variable {σ ε β : Type}

/-- The state that handling these events one after the other leads to, failures or not. -/
def settle (handle : ε → Act σ β) : σ → List ε → σ
  | s, [] => s
  | s, e :: rest => settle handle (handle e s).state rest

def outcomes (handle : ε → Act σ β) : σ → List ε → List (Outcome ε β)
  | _, [] => []
  | s, e :: rest => (e, (handle e s).result) :: outcomes handle (handle e s).state rest

theorem settle_append (handle : ε → Act σ β) (s : σ) (xs ys : List ε) :
    settle handle s (xs ++ ys) = settle handle (settle handle s xs) ys := by
  induction xs generalizing s with
  | nil => rfl
  | cons x rest ih => exact ih _

theorem outcomes_append (handle : ε → Act σ β) (s : σ) (xs ys : List ε) :
    outcomes handle s (xs ++ ys) =
      outcomes handle s xs ++ outcomes handle (settle handle s xs) ys := by
  induction xs generalizing s with
  | nil => rfl
  | cons x rest ih => exact congrArg _ (ih _)

@[simp] theorem length_outcomes (handle : ε → Act σ β) (s : σ) (es : List ε) :
    (outcomes handle s es).length = es.length := by
  induction es generalizing s with
  | nil => rfl
  | cons e rest ih => simp [outcomes, ih]

theorem mem_of_mem_outcomes {handle : ε → Act σ β} {s : σ} {es : List ε} {o : Outcome ε β}
    (h : o ∈ outcomes handle s es) : o.1 ∈ es := by
  induction es generalizing s with
  | nil => simp [outcomes] at h
  | cons e rest ih =>
    rcases List.mem_cons.mp h with rfl | h
    · exact List.mem_cons_self
    · exact List.mem_cons_of_mem _ (ih h)

theorem exists_outcome (handle : ε → Act σ β) (s : σ) {es : List ε} {e : ε} (h : e ∈ es) :
    ∃ x, (e, x) ∈ outcomes handle s es := by
  induction es generalizing s with
  | nil => simp at h
  | cons d rest ih =>
    rcases List.mem_cons.mp h with rfl | h
    · exact ⟨_, List.mem_cons_self⟩
    · obtain ⟨x, hx⟩ := ih (handle d s).state h
      exact ⟨x, List.mem_cons_of_mem _ hx⟩

theorem taken_draw (source : Source ε) (n : Nat) : taken source.draw n = source.events.take n := by
  induction n with
  | zero => simp [taken]
  | succ n ih =>
    rw [taken, ih, List.take_add_one]
    unfold Source.draw
    cases source.events[n]? with
    | some e => rfl
    | none => cases source.failure <;> rfl

variable (supply : Nat → Draw ε) (handle : ε → Act σ β) (progress : Bool) (s : σ)

/-- Nothing that was drawn is lost, and what came of it is still to be looked at unless it has been
counted. -/
structure Healthy (h : Hall σ ε β) (left : List (Outcome ε β)) : Prop where
  kept : (h.queued ++ h.running ++ h.handled).Perm (taken supply h.drawn)
  accounted : ∃ told : List (Outcome ε β),
    (told ++ h.leaving ++ h.ended ++ left).Perm (outcomes handle s h.handled) ∧
      told.length = h.done ∧ ∀ o ∈ told, ∃ x, o.2 = .ok x

def Cause (h : Hall σ ε β) (f : Failure) : Prop :=
  supply h.drawn = .raised f ∨ (∃ e, (e, .error f) ∈ outcomes handle s h.handled) ∨
    progress = true ∧ f = .progressBar

inductive Told (h : Hall σ ε β) : Except Failure Nat → Prop
  | ok (hk : Healthy supply handle s h []) (hn : h.pending = 0)
      (hd : supply h.drawn = .finished) : Told h (.ok h.done)
  | error {f : Failure} (hf : Cause supply handle progress s h f) : Told h (.error f)

inductive Stands (h : Hall σ ε β) : Phase ε β → Prop
  | filling (hk : Healthy supply handle s h []) : Stands h .filling
  | reporting {left : List (Outcome ε β)} (hk : Healthy supply handle s h left) :
      Stands h (.reporting left)
  | cancelling {f : Failure} (hf : Cause supply handle progress s h f) : Stands h (.cancelling f)
  | joining {result : Except Failure Nat} (ht : Told supply handle progress s h result) :
      Stands h (.joining result)
  | closed {result : Except Failure Nat} (ht : Told supply handle progress s h result)
      (hi : h.Idle) : Stands h (.closed result)

/-- What holds of a run at any time: the state is as if the events that were handled had been
handled one after the other. -/
structure Sound (h : Hall σ ε β) : Prop where
  state : h.state = settle handle s h.handled
  drawn : (h.queued ++ h.running ++ h.handled).Subperm (taken supply h.drawn)
  exhausted : h.exhausted = true → supply h.drawn = .finished
  stands : Stands supply handle progress s h h.phase

theorem sound_start : Sound supply handle progress s ({ state := s } : Hall σ ε β) :=
  ⟨rfl, .refl _, fun h => by simp at h, .filling ⟨.refl _, [], .refl _, rfl, by simp⟩⟩

variable {supply handle progress s} {h h' : Hall σ ε β} {threads : Nat} {left : List (Outcome ε β)}

/-- An element that goes from one list to the next is not lost. -/
theorem moved {γ : Type} (before after next : List γ) (x : γ) :
    (before ++ after ++ (next ++ [x])).Perm (before ++ x :: after ++ next) := by
  classical
  refine List.perm_iff_count.mpr fun a => ?_
  simp only [List.count_append, List.count_cons, List.count_nil]
  omega

theorem entered {γ : Type} (first second third : List γ) (x : γ) :
    (first ++ [x] ++ second ++ third).Perm (first ++ second ++ third ++ [x]) := by
  classical
  refine List.perm_iff_count.mpr fun a => ?_
  simp only [List.count_append]
  omega

theorem Healthy.start {before after : List ε} {e : ε} (hk : Healthy supply handle s h left)
    (hq : h.queued = before ++ e :: after) :
    Healthy supply handle s
      { h with queued := before ++ after, running := h.running ++ [e] } left := by
  obtain ⟨hkept, haccounted⟩ := hk
  rw [hq] at hkept
  exact ⟨((moved before after h.running e).append_right _).trans hkept, haccounted⟩

theorem Healthy.handled {before after : List ε} {e : ε} (hk : Healthy supply handle s h left)
    (hs : h.state = settle handle s h.handled) (hr : h.running = before ++ e :: after) :
    Healthy supply handle s
      { h with
        state := (handle e h.state).state
        running := before ++ after
        leaving := h.leaving ++ [(e, (handle e h.state).result)]
        handled := h.handled ++ [e] } left := by
  obtain ⟨hkept, told, hperm, hlength, hok⟩ := hk
  rw [hr, List.append_assoc] at hkept
  refine ⟨?_, told, ?_, hlength, hok⟩
  · rw [List.append_assoc]
    exact ((moved before after h.handled e).append_left _).trans hkept
  · rw [outcomes_append, ← hs]
    simp only [outcomes]
    classical
    refine List.perm_iff_count.mpr fun a => ?_
    have hc := hperm.count_eq a
    simp only [List.count_append] at hc ⊢
    omega

theorem Healthy.complete {before after : List (Outcome ε β)} {o : Outcome ε β}
    (hk : Healthy supply handle s h left) (hl : h.leaving = before ++ o :: after) :
    Healthy supply handle s
      { h with leaving := before ++ after, ended := h.ended ++ [o] } left := by
  obtain ⟨hkept, told, hperm, hlength, hok⟩ := hk
  rw [hl, List.append_assoc told] at hperm
  refine ⟨hkept, told, ?_, hlength, hok⟩
  rw [List.append_assoc told]
  exact (((moved before after h.ended o).append_left told).append_right left).trans hperm

theorem Healthy.draw {e : ε} (hk : Healthy supply handle s h left)
    (hd : supply h.drawn = .item e) :
    Healthy supply handle s { h with drawn := h.drawn + 1, queued := h.queued ++ [e] } left := by
  refine ⟨?_, hk.accounted⟩
  simp only [taken, hd, Draw.items]
  exact (entered _ _ _ e).trans (hk.kept.append_right [e])

theorem Healthy.wait {now later : List (Outcome ε β)} (hk : Healthy supply handle s h [])
    (he : h.ended.Perm (now ++ later)) (phase : Phase ε β) :
    Healthy supply handle s { h with ended := later, phase } now := by
  obtain ⟨told, hperm, hlength, hok⟩ := hk.accounted
  refine ⟨hk.kept, told, ?_, hlength, hok⟩
  classical
  refine List.perm_iff_count.mpr fun a => ?_
  have hc := hperm.count_eq a
  have hn := he.count_eq a
  simp only [List.count_append, List.count_nil] at hc hn ⊢
  omega

theorem Healthy.count {e : ε} {x : β} (hk : Healthy supply handle s h ((e, .ok x) :: left))
    (phase : Phase ε β) :
    Healthy supply handle s { h with done := h.done + 1, phase } left := by
  obtain ⟨told, hperm, hlength, hok⟩ := hk.accounted
  refine ⟨hk.kept, told ++ [(e, .ok x)], ?_, by simp [hlength], ?_⟩
  · classical
    refine List.perm_iff_count.mpr fun a => ?_
    have hc := hperm.count_eq a
    simp only [List.count_append, List.count_cons, List.count_nil] at hc ⊢
    omega
  · intro o ho
    rcases List.mem_append.mp ho with ho | ho
    · exact hok o ho
    · exact ⟨x, by rw [List.mem_singleton.mp ho]⟩

theorem Hall.idle_of_pending (hn : h.pending = 0) : h.Idle := by
  simp only [Hall.pending] at hn
  exact ⟨List.length_eq_zero_iff.mp (by omega), List.length_eq_zero_iff.mp (by omega),
    List.length_eq_zero_iff.mp (by omega)⟩

/-- What a busy thread does changes nothing about the thread that hands the events out. -/
theorem Stands.work {p : Phase ε β} (hs : Stands supply handle progress s h p) (hbusy : ¬ h.Idle)
    (hk : ∀ left, Healthy supply handle s h left → Healthy supply handle s h' left)
    (hc : ∀ f, Cause supply handle progress s h f → Cause supply handle progress s h' f) :
    Stands supply handle progress s h' p := by
  cases hs with
  | filling h₁ => exact .filling (hk _ h₁)
  | reporting h₁ => exact .reporting (hk _ h₁)
  | cancelling h₁ => exact .cancelling (hc _ h₁)
  | joining ht =>
    cases ht with
    | ok _ hn _ => exact absurd (Hall.idle_of_pending hn) hbusy
    | error hf => exact .joining (.error (hc _ hf))
  | closed _ hi => exact absurd hi hbusy

theorem Cause.handled {before after : List ε} {e : ε} {f : Failure}
    (hc : Cause supply handle progress s h f) :
    Cause supply handle progress s
      { h with
        state := (handle e h.state).state
        running := before ++ after
        leaving := h.leaving ++ [(e, (handle e h.state).result)]
        handled := h.handled ++ [e] } f := by
  rcases hc with hf | ⟨d, hd⟩ | hbar
  · exact .inl hf
  · exact .inr (.inl ⟨d, by rw [outcomes_append]; exact List.mem_append_left _ hd⟩)
  · exact .inr (.inr hbar)

theorem Step.stands (hstep : Step supply threads progress handle h h') (hthreads : 0 < threads)
    (hs : Sound supply handle progress s h) : Stands supply handle progress s h' h'.phase := by
  obtain ⟨hstate, -, hexhausted, hstands⟩ := hs
  cases hstep with
  | draw hp hw hd =>
    rw [hp] at hstands
    cases hstands with
    | filling hk => exact hp ▸ .filling ⟨(hk.draw hd).kept, (hk.draw hd).accounted⟩
  | exhaust hp hw hd =>
    rw [hp] at hstands
    cases hstands with
    | filling hk => exact hp ▸ .filling ⟨hk.kept, hk.accounted⟩
  | stop hp hw hd => exact .cancelling (.inl hd)
  | leave hp hw hn =>
    rw [hp] at hstands
    have hopen : ¬ h.exhausted = false := by
      intro hopen
      exact hw ⟨hopen, by simp only [window]; omega⟩
    cases hstands with
    | filling hk =>
      exact .joining (.ok ⟨hk.kept, hk.accounted⟩ hn (hexhausted (by simpa using hopen)))
  | wait now later hp hw hne he =>
    rw [hp] at hstands
    cases hstands with
    | filling hk => exact .reporting (hk.wait he _)
  | count hp =>
    rw [hp] at hstands
    cases hstands with
    | reporting hk =>
      cases progress with
      | true => exact .cancelling (.inr (.inr ⟨rfl, rfl⟩))
      | false => exact .reporting (hk.count _)
  | @fail e f left hp =>
    rw [hp] at hstands
    cases hstands with
    | reporting hk =>
      obtain ⟨told, hperm, -, -⟩ := hk.accounted
      exact .cancelling (.inr (.inl ⟨e, hperm.mem_iff.mp (by simp)⟩))
  | refill hp =>
    rw [hp] at hstands
    cases hstands with
    | reporting hk => exact .filling ⟨hk.kept, hk.accounted⟩
  | cancel before after hp hq =>
    rw [hp] at hstands
    cases hstands with
    | cancelling hf => exact hp ▸ .cancelling hf
  | join hp hq =>
    rw [hp] at hstands
    cases hstands with
    | cancelling hf => exact .joining (.error hf)
  | close hp hi =>
    rw [hp] at hstands
    cases hstands with
    | joining ht =>
      cases progress with
      | true => exact .closed (.error (.inr (.inr ⟨rfl, rfl⟩))) hi
      | false =>
        refine .closed ?_ hi
        cases ht with
        | ok hk hn hd => exact .ok ⟨hk.kept, hk.accounted⟩ hn hd
        | error hf => exact .error hf
  | start before after hq hf =>
    exact hstands.work (fun hi => by simp [hi.1] at hq) (fun _ hk => hk.start hq) (fun _ hc => hc)
  | handle before after hr =>
    exact hstands.work (fun hi => by simp [hi.2.1] at hr) (fun _ hk => hk.handled hstate hr)
      (fun _ hc => hc.handled)
  | complete before after hl =>
    exact hstands.work (fun hi => by simp [hi.2.2] at hl) (fun _ hk => hk.complete hl)
      (fun _ hc => hc)

theorem Step.state (hstep : Step supply threads progress handle h h')
    (hs : h.state = settle handle s h.handled) : h'.state = settle handle s h'.handled := by
  cases hstep with
  | handle before after hr =>
    rw [settle_append, ← hs]
    rfl
  | _ => exact hs

theorem Step.drawn (hstep : Step supply threads progress handle h h')
    (hs : (h.queued ++ h.running ++ h.handled).Subperm (taken supply h.drawn)) :
    (h'.queued ++ h'.running ++ h'.handled).Subperm (taken supply h'.drawn) := by
  cases hstep with
  | draw hp hw hd =>
    simp only [taken, hd, Draw.items]
    exact (entered _ _ _ _).subperm.trans ((List.subperm_append_right _).mpr hs)
  | @cancel f e before after hp hq =>
    rw [hq] at hs
    have hfewer := (List.sublist_cons_self e after).append_left before
    exact ((hfewer.append_right _).append_right _).subperm.trans hs
  | start before after hq hf =>
    rw [hq] at hs
    exact ((moved before after h.running _).append_right _).subperm.trans hs
  | handle before after hr =>
    rw [hr, List.append_assoc] at hs
    rw [List.append_assoc]
    exact ((moved before after h.handled _).append_left _).subperm.trans hs
  | _ => exact hs

theorem Step.sound (hstep : Step supply threads progress handle h h') (hthreads : 0 < threads)
    (hs : Sound supply handle progress s h) : Sound supply handle progress s h' := by
  refine ⟨hstep.state hs.state, hstep.drawn hs.drawn, ?_, hstep.stands hthreads hs⟩
  cases hstep with
  | draw hp hw hd =>
    intro he
    rw [hw.1] at he
    contradiction
  | exhaust hp hw hd => exact fun _ => hd
  | _ => exact hs.exhausted

theorem Sound.steps (hthreads : 0 < threads) (hs : Sound supply handle progress s h)
    (hsteps : Relation.ReflTransGen (Step supply threads progress handle) h h') :
    Sound supply handle progress s h' := by
  induction hsteps with
  | refl => exact hs
  | tail _ hstep ih => exact hstep.sound hthreads ih

/-- A run that ends without a failure has handled every event, and none of them failed. -/
theorem Sound.closed_ok {n : Nat} (hs : Sound supply handle progress s h)
    (hp : h.phase = .closed (.ok n)) :
    supply h.drawn = .finished ∧ h.handled.Perm (taken supply h.drawn) ∧
      n = h.handled.length ∧ ∀ o ∈ outcomes handle s h.handled, ∃ x, o.2 = .ok x := by
  have hstands := hs.stands
  rw [hp] at hstands
  cases hstands with
  | closed ht hi =>
    cases ht with
    | ok hk hn hd =>
      obtain ⟨hq, hr, hl⟩ := hi
      have he : h.ended = [] := by
        apply List.length_eq_zero_iff.mp
        simp only [Hall.pending] at hn
        omega
      obtain ⟨told, hperm, hlength, hok⟩ := hk.accounted
      simp only [hl, he, List.append_nil] at hperm
      refine ⟨hd, by simpa [hq, hr] using hk.kept, ?_, fun o ho => hok o (hperm.mem_iff.mpr ho)⟩
      rw [← hlength, hperm.length_eq, length_outcomes]

theorem Sound.closed_error {f : Failure} (hs : Sound supply handle progress s h)
    (hp : h.phase = .closed (.error f)) : Cause supply handle progress s h f := by
  have hstands := hs.stands
  rw [hp] at hstands
  cases hstands with
  | closed ht _ =>
    cases ht with
    | error hf => exact hf

end PixelTelescope.Pool
