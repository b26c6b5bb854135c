import PixelTelescope.Proofs.Run.Calls

namespace PixelTelescope.Run

variable {α : Type} {disk : Disk (Content α)} {history pre post : List (Turn α)} {w : Desk α}
  {t : Turn α}

/-- Calls that were made one after the other on a new session, and the desk that they lead to. -/
inductive Made (disk : Disk (Content α)) : List (Turn α) → Desk α → Prop
  | start : Made disk [] { disk }
  | call {history : List (Turn α)} {w : Desk α} (h : Made disk history w) (c : Call α) :
      Made disk (history ++ [⟨c, w⟩]) (c.perform w).state

theorem Made.split (h : Made disk (pre ++ t :: post) w) :
    Made disk pre t.before ∧ Made disk (pre ++ [t]) t.after := by
  generalize he : pre ++ t :: post = history at h
  induction h generalizing post with
  | start => simp at he
  | @call history w h c ih =>
    rcases List.eq_nil_or_concat post with rfl | ⟨more, last, rfl⟩
    · obtain ⟨rfl, hlast⟩ := List.append_inj' he rfl
      obtain rfl : t = ⟨c, w⟩ := by simpa using hlast
      exact ⟨h, h.call c⟩
    · rw [List.concat_eq_append, ← List.cons_append, ← List.append_assoc] at he
      exact ih (List.append_inj' he rfl).1

theorem Made.hazards (h : Made disk history w) : w.hazards = fun _ => {} := by
  induction h with
  | start => rfl
  | @call history w _ c ih =>
    rw [← ih]
    cases c with
    | openRun => rfl
    | append r =>
      simp only [Call.perform, Desk.put, Desk.append, Desk.sync]
      split
      · split <;> rfl
      · rfl
    | close =>
      simp only [Call.perform, Desk.close, Desk.sync]
      split
      · split <;> rfl
      · rfl

structure OpenedOnce (history : List (Turn α)) (given : String) : Prop where
  once : (history.filter Turn.opens).length = 1
  call : ∃ t ∈ history, t.opens = true ∧
    ∃ run detector config, t.call = .openRun given run detector config

inductive Stands (history : List (Turn α)) (w : Desk α) : Prop
  | unopened (hsession : w.session = {}) (hopens : ∀ t ∈ history, t.opens = false)
      (hcloses : ∀ t ∈ history, t.closes = false) (hstored : stored history = [])
  | running {title : Title} {given : String}
      (holds : w.Holds title (.ofText given) (stored history)) (hopened : OpenedOnce history given)
      (hcloses : ∀ t ∈ history, t.closes = false)
  | ended {title : Title} {given : String}
      (closed : w.Closed title (.ofText given) (stored history))
      (hopened : OpenedOnce history given)

theorem stored_snoc (history : List (Turn α)) (t : Turn α) :
    stored (history ++ [t]) = stored history ++ t.stored?.toList := by
  cases h : t.stored? <;> simp [stored, h]

theorem stored_snoc_none (history : List (Turn α)) (h : t.stored? = none) :
    stored (history ++ [t]) = stored history := by
  rw [stored_snoc, h, Option.toList_none, List.append_nil]

theorem OpenedOnce.snoc {given : String} (h : OpenedOnce history given) (ht : t.opens = false) :
    OpenedOnce (history ++ [t]) given := by
  obtain ⟨honce, u, hu, hcall⟩ := h
  exact ⟨by simp [List.filter_append, ht, honce], u, List.mem_append_left _ hu, hcall⟩

theorem forall_snoc {p : Turn α → Bool} (h : ∀ u ∈ history, p u = false) (ht : p t = false) :
    ∀ u ∈ history ++ [t], p u = false := by
  simpa [or_imp, forall_and, ht] using h

/-- A call that fails is neither an opening nor a close that returned, and stores nothing. -/
theorem Turn.of_error {f : Failure} (h : t.result = .error f) :
    t.opens = false ∧ t.closes = false ∧ t.stored? = none := by
  simp only [opens, closes, stored?, h]
  cases t.call <;> simp

/-- A call that fails and changes nothing leaves everything where it stands. -/
theorem Stands.refused (hs : Stands history w) {f : Failure} (hr : t.result = .error f) :
    Stands (history ++ [t]) w := by
  obtain ⟨hopens, hcloses, hstored⟩ := Turn.of_error hr
  have hsame := stored_snoc_none history hstored
  cases hs with
  | unopened hsession ho hc hn =>
    exact .unopened hsession (forall_snoc ho hopens) (forall_snoc hc hcloses) (hsame.trans hn)
  | running holds ho hc =>
    exact .running (hsame ▸ holds) (ho.snoc hopens) (forall_snoc hc hcloses)
  | ended closed ho => exact .ended (hsame ▸ closed) (ho.snoc hopens)

/-- All that comes of an append to an open run whose event can be stored. -/
theorem Desk.Holds.put_cases {title : Title} {path : Path} {rs : List (Event.Record α)}
    (h : w.Holds title path rs) (hz : w.hazards = fun _ => {}) (r : Event.Record α) :
    (∃ f, (w.put r).result = .error f ∧ (w.put r).state = w ∧
      (Storable r → r.number ∈ rs.map (·.number) ∧ f = .lifecycle (.alreadyWritten r.number))) ∨
    (w.put r).result = .ok () ∧ (w.put r).state.Holds title path (rs ++ [r]) := by
  have hquiet : w.hazards r.number = {} := by rw [hz]
  by_cases hn : r.number ∈ rs.map (·.number)
  · left
    refine ⟨_, ?_, ?_, fun _ => ⟨hn, rfl⟩⟩
    · rw [h.put_eq, h.session.append_known _ hn]
    · rw [h.put_eq, h.session.append_known _ hn]
      exact h.sync_self
  · cases hf : storeFault (w.hazards r.number) rs.length r with
    | none =>
      obtain ⟨hresult, hholds, -⟩ := h.put_stored hn hf
      exact .inr ⟨hresult, hholds⟩
    | some fault =>
      left
      have hclears : (w.hazards r.number).Clears := hquiet ▸ ⟨fun _ => rfl, rfl⟩
      obtain ⟨hstate, hresult⟩ := h.session.append_failed hclears hn hf
      refine ⟨fault.failure r.number w.session.path, ?_, ?_, fun hs => ?_⟩
      · rw [h.put_eq]
        exact hresult
      · rw [h.put_eq, hstate]
        exact h.sync_self
      · rw [hquiet, Session.storeFault_of_storable hs] at hf
        contradiction

inductive Turn.Comes (t : Turn α) (rs : List (Event.Record α)) : Prop
  | refused {f : Failure} (hr : t.result = .error f) (ha : t.after = t.before)
  | unopened {f : Failure} (hs : t.stage = .uninitialized) (hr : t.result = .error f)
      (hf : ∀ fault, f ≠ .lifecycle fault) (ha : t.after.session = t.before.session)
  | opened {title : Title} {given : String} {run : Reading Float} {detector : String}
      {config : Option String} (hs : t.stage = .uninitialized)
      (hc : t.call = .openRun given run detector config) (hr : t.result = .ok none)
      (ha : t.after.Holds title (.ofText given) [])
  | stored {r : Event.Record α} (hs : t.stage = .open) (hc : t.call = .append r)
      (hr : t.result = .ok none)
      (ha : ∀ title path, t.before.Holds title path rs → t.after.Holds title path (rs ++ [r]))
  | closed (hs : t.stage = .open) (hc : t.call = .close) (hr : t.result = .ok (some rs.length))
      (ha : ∀ title path, t.before.Holds title path rs → t.after.Closed title path rs)
  | again (hs : t.stage = .closed) (hc : t.call = .close) (hr : t.result = .ok (some rs.length))
      (ha : t.after = t.before)

/-- The stage of a session decides what came before. -/
theorem Stands.of_uninitialized (hs : Stands history w)
    (h : w.session.stage = .uninitialized) :
    w.session = {} ∧ (∀ u ∈ history, u.opens = false) ∧ (∀ u ∈ history, u.closes = false) ∧
      stored history = [] := by
  cases hs with
  | unopened hsession hopens hcloses hstored => exact ⟨hsession, hopens, hcloses, hstored⟩
  | running holds => simp [holds.session.stage] at h
  | ended closed => simp [closed.stage] at h

theorem Stands.of_open (hs : Stands history w) (h : w.session.stage = .open) :
    ∃ title given, w.Holds title (.ofText given) (stored history) ∧ OpenedOnce history given ∧
      ∀ u ∈ history, u.closes = false := by
  cases hs with
  | unopened hsession => simp [hsession] at h
  | running holds hopened hcloses => exact ⟨_, _, holds, hopened, hcloses⟩
  | ended closed => simp [closed.stage] at h

theorem Stands.of_closed (hs : Stands history w) (h : w.session.stage = .closed) :
    ∃ title given, w.Closed title (.ofText given) (stored history) ∧
      OpenedOnce history given := by
  cases hs with
  | unopened hsession => simp [hsession] at h
  | running holds => simp [holds.session.stage] at h
  | ended closed hopened => exact ⟨_, _, closed, hopened⟩

theorem comes_openRun (w : Desk α) (rs : List (Event.Record α)) (given : String)
    (run : Reading Float) (detector : String) (config : Option String) :
    (⟨.openRun given run detector config, w⟩ : Turn α).Comes rs := by
  by_cases hs : w.session.stage = .uninitialized
  · cases hr : (w.openRun (.ofText given) run detector config).result with
    | ok x =>
      obtain ⟨n, -, hholds, -⟩ := Desk.openRun_holds (Path.ofText_normal given) hr
      have hresult : (⟨.openRun given run detector config, w⟩ : Turn α).result = .ok none := by
        simp only [Turn.result, Call.perform, hr, Except.map]
      exact .opened hs rfl hresult hholds
    | error f =>
      obtain ⟨hsame, hf⟩ := Desk.openRun_failed hs hr
      refine .unopened (f := f) hs ?_ hf hsame
      simp only [Turn.result, Call.perform, hr, Except.map]
  · refine .refused (f := .lifecycle (.cannotOpen w.session.stage)) ?_ ?_
    · simp only [Turn.result, Call.perform, Desk.openRun_refused hs, Except.map]
    · simp only [Turn.after, Call.perform, Desk.openRun_refused hs]

theorem Stands.comes_append (hs : Stands history w) (hz : w.hazards = fun _ => {})
    (r : Event.Record α) : (⟨.append r, w⟩ : Turn α).Comes (Run.stored history) := by
  by_cases ho : w.session.stage = .open
  · obtain ⟨title, given, holds, -⟩ := hs.of_open ho
    rcases holds.put_cases hz r with ⟨f, hr, hstate, -⟩ | ⟨hr, -⟩
    · refine .refused (f := f) ?_ hstate
      simp only [Turn.result, Call.perform, hr, Except.map]
    · refine .stored ho rfl ?_ ?_
      · simp only [Turn.result, Call.perform, hr, Except.map]
      · intro title path h
        rcases h.put_cases hz r with ⟨f, hf, -⟩ | ⟨-, hholds⟩
        · rw [hr] at hf
          contradiction
        · exact hholds
  · refine .refused (f := .lifecycle (.cannotWrite r.number w.session.stage)) ?_ ?_
    · simp only [Turn.result, Call.perform, Desk.put_refused ho, Except.map]
    · simp only [Turn.after, Call.perform, Desk.put_refused ho]

theorem Desk.close_unopened (h : w.session.stage = .uninitialized) :
    w.close = ⟨w, [], .error (.lifecycle .neverOpened)⟩ := by
  simp only [Desk.close, Session.close, h]

theorem Desk.close_closed (h : w.session.stage = .closed) :
    w.close = ⟨w, [], .ok w.session.count⟩ := by
  simp only [Desk.close, Session.close, h]

theorem Stands.comes_close (hs : Stands history w) :
    (⟨.close, w⟩ : Turn α).Comes (Run.stored history) := by
  cases hs with
  | unopened hsession =>
    have hclose := Desk.close_unopened (w := w) (by rw [hsession])
    refine .refused (f := .lifecycle .neverOpened) ?_ ?_
    · simp only [Turn.result, Call.perform, hclose, Except.map]
    · simp only [Turn.after, Call.perform, hclose]
  | running holds =>
    refine .closed holds.session.stage rfl ?_ fun title path h => h.close.2
    simp only [Turn.result, Call.perform, holds.close.1, Except.map]
  | ended closed =>
    have hclose := Desk.close_closed closed.stage
    refine .again closed.stage rfl ?_ ?_
    · simp only [Turn.result, Call.perform, hclose, Except.map, closed.count]
    · simp only [Turn.after, Call.perform, hclose]

theorem Stands.comes (hs : Stands history t.before) (hz : t.before.hazards = fun _ => {}) :
    t.Comes (Run.stored history) := by
  obtain ⟨call, before⟩ := t
  cases call with
  | openRun given run detector config => exact comes_openRun before _ given run detector config
  | append r => exact hs.comes_append hz r
  | close => exact hs.comes_close

theorem OpenedOnce.start {given : String} {run : Reading Float} {detector : String}
    {config : Option String} (hopens : t.opens = true)
    (hcall : t.call = .openRun given run detector config)
    (hnone : ∀ u ∈ history, u.opens = false) : OpenedOnce (history ++ [t]) given := by
  refine ⟨?_, t, by simp, hopens, _, _, _, hcall⟩
  rw [List.filter_append, List.filter_eq_nil_iff.mpr (by simpa using hnone)]
  simp [hopens]

theorem Stands.step (hs : Stands history t.before) (hc : t.Comes (Run.stored history)) :
    Stands (history ++ [t]) t.after := by
  cases hc with
  | refused hr ha => exact ha ▸ hs.refused hr
  | unopened hstage hr hf ha =>
    obtain ⟨ho, hc, hn⟩ := Turn.of_error hr
    obtain ⟨hsession, hopens, hcloses, hstored⟩ := hs.of_uninitialized hstage
    exact .unopened (ha.trans hsession) (forall_snoc hopens ho) (forall_snoc hcloses hc)
      ((stored_snoc_none _ hn).trans hstored)
  | opened hstage hcall hr ha =>
    obtain ⟨-, hopens, hcloses, hstored⟩ := hs.of_uninitialized hstage
    have hnone : t.stored? = none := by simp only [Turn.stored?, hcall]
    have hholds := (stored_snoc_none history hnone).trans hstored ▸ ha
    exact .running hholds (.start (by simp only [Turn.opens, hcall, hr]) hcall hopens)
      (forall_snoc hcloses (by simp only [Turn.closes, hcall]))
  | @stored r hstage hcall hr ha =>
    obtain ⟨title, given, holds, hopened, hc⟩ := hs.of_open hstage
    have hsome : t.stored? = some r := by simp only [Turn.stored?, hcall, hr]
    have hholds : t.after.Holds title (.ofText given) (Run.stored (history ++ [t])) := by
      rw [stored_snoc, hsome]
      exact ha title _ holds
    exact .running hholds (hopened.snoc (by simp only [Turn.opens, hcall]))
      (forall_snoc hc (by simp only [Turn.closes, hcall]))
  | closed hstage hcall hr ha =>
    obtain ⟨title, given, holds, hopened, -⟩ := hs.of_open hstage
    have hnone : t.stored? = none := by simp only [Turn.stored?, hcall]
    have hclosed := stored_snoc_none history hnone ▸ ha title _ holds
    exact .ended hclosed (hopened.snoc (by simp only [Turn.opens, hcall]))
  | again hstage hcall hr ha =>
    obtain ⟨title, given, closed, hopened⟩ := hs.of_closed hstage
    have hnone : t.stored? = none := by simp only [Turn.stored?, hcall]
    have hclosed : t.after.Closed title (.ofText given) (Run.stored (history ++ [t])) := by
      rw [stored_snoc_none _ hnone, ha]
      exact closed
    exact .ended hclosed (hopened.snoc (by simp only [Turn.opens, hcall]))

theorem Made.stands (h : Made disk history w) : Stands history w := by
  induction h with
  | start => exact .unopened rfl (by simp) (by simp) rfl
  | call h c ih => exact ih.step (t := ⟨c, _⟩) (ih.comes h.hazards)

end PixelTelescope.Run
