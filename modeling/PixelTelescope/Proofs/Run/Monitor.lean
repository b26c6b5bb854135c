import Mathlib.Logic.Relation
import PixelTelescope.Proofs.Run.RoundTrip
import PixelTelescope.Proofs.Run.Turns

namespace PixelTelescope.Run

variable {α : Type} {disk : Disk (Content α)} {history pre post : List (Turn α)} {w : Desk α}
  {t : Turn α}

def Tells (d : Disk (Content α)) (name : String) (rs : List (Event.Record α)) : Prop :=
  ∃ f header events, readRun d name = .ok f ∧ f.header = .ok header ∧
    header.count = rs.length ∧ f.records = .ok events ∧ events.Perm rs

/-- What those who call a session can rely on, in whatever order their calls come. -/
structure Protocol (history : List (Turn α)) : Prop where
  opened_once : (history.filter Turn.opens).length ≤ 1
  /-- Events are stored after the opening and before the first close. -/
  stored_between : ∀ pre t post r, history = pre ++ t :: post → t.stored? = some r →
    (∃ u ∈ pre, u.opens = true) ∧ ∀ u ∈ pre, u.closes = false
  /-- Of the appends of one number exactly one returns, if one of them is made on the open
  session. -/
  stored_once : ∀ n, (∀ t ∈ history, ∀ r, t.call = .append r → r.number = n → Storable r) →
    (∃ t ∈ history, t.stage = .open ∧ ∃ r, t.call = .append r ∧ r.number = n) →
    ∃ pre t post r, history = pre ++ t :: post ∧ t.stored? = some r ∧ r.number = n ∧
      ∀ u ∈ pre ++ post, ∀ q, u.call = .append q → q.number = n →
        ∃ fault, u.result = .error (.lifecycle fault)
  written_open : ∀ t ∈ history, t.stage ≠ .open → ∀ r, t.call = .append r →
    t.result = .error (.lifecycle (.cannotWrite r.number t.stage))
  closed_early : ∀ pre t post, history = pre ++ t :: post → t.call = .close →
    (∀ u ∈ pre, u.opens = false) → t.result = .error (.lifecycle .neverOpened)
  /-- Every close after the opening tells all events that are ever stored, as the file does. -/
  closed_counts : ∀ pre t post, history = pre ++ t :: post → t.call = .close →
    (∃ u ∈ pre, u.opens = true) →
    t.result = .ok (some (stored history).length) ∧
      ∃ u ∈ pre, u.opens = true ∧ ∃ given run detector config,
        u.call = .openRun given run detector config ∧
        (Path.ofText given).SpelledBy (Path.ofText given).text ∧
        ∀ name, (Path.ofText given).SpelledBy name → Tells t.after.disk name (stored history)
  unchanged : ∀ t ∈ history, ∀ fault, t.result = .error (.lifecycle fault) → t.after = t.before
  /-- A session is opened, and then closed, and nothing else ever happens to its stage. -/
  forward : ∀ t ∈ history, t.after.session.stage = t.stage ∨
    (t.opens = true ∧ t.stage = .uninitialized ∧ t.after.session.stage = .open) ∨
    (t.closes = true ∧ t.stage = .open ∧ t.after.session.stage = .closed)

theorem Turn.of_stored {r : Event.Record α} (h : t.stored? = some r) :
    t.call = .append r ∧ ∃ x, t.result = .ok x := by
  simp only [stored?] at h
  split at h
  · rename_i q x hc hr
    exact ⟨Option.some.inj h ▸ hc, x, hr⟩
  · contradiction

theorem Made.comes (h : Made disk (pre ++ t :: post) w) : t.Comes (stored pre) :=
  h.split.1.stands.comes h.split.1.hazards

theorem Made.stored_open (h : Made disk (pre ++ t :: post) w) {r : Event.Record α}
    (ht : t.stored? = some r) : t.stage = .open := by
  obtain ⟨hcall, x, hr⟩ := Turn.of_stored ht
  cases h.comes with
  | refused hr' => simp [hr'] at hr
  | unopened _ hr' => simp [hr'] at hr
  | opened _ hc => simp [hc] at hcall
  | stored hs => exact hs
  | closed _ hc => simp [hc] at hcall
  | again _ hc => simp [hc] at hcall

theorem Made.stored_between (h : Made disk (pre ++ t :: post) w) {r : Event.Record α}
    (ht : t.stored? = some r) :
    (∃ u ∈ pre, u.opens = true) ∧ ∀ u ∈ pre, u.closes = false := by
  obtain ⟨title, given, -, hopened, hcloses⟩ := h.split.1.stands.of_open (h.stored_open ht)
  obtain ⟨u, hu, hopens, -⟩ := hopened.call
  exact ⟨⟨u, hu, hopens⟩, hcloses⟩

/-- After a close that returned nothing is stored any more. -/
theorem Made.stored_closes (h : Made disk (pre ++ t :: post) w) (ht : t.closes = true) :
    stored (pre ++ t :: post) = stored pre := by
  have hnone : ∀ u ∈ t :: post, u.stored? = none := by
    intro u hu
    rcases List.mem_cons.mp hu with rfl | hu
    · cases hr : u.stored? with
      | none => rfl
      | some r =>
        obtain ⟨hcall, -⟩ := Turn.of_stored hr
        simp [Turn.closes, hcall] at ht
    · obtain ⟨more, rest, rfl⟩ := List.append_of_mem hu
      cases hr : u.stored? with
      | none => rfl
      | some r =>
        rw [← List.cons_append, ← List.append_assoc] at h
        have hopen := (h.stored_between hr).2 t (by simp)
        rw [ht] at hopen
        contradiction
  rw [stored, List.filterMap_append, List.filterMap_eq_nil_iff.mpr hnone, List.append_nil]
  rfl

theorem Made.distinct (h : Made disk history w) : ((stored history).map (·.number)).Nodup := by
  cases h.stands with
  | unopened _ _ _ hstored => simp [hstored]
  | running holds => exact holds.session.distinct
  | ended closed => exact closed.distinct

theorem Made.opened_once (h : Made disk history w) :
    (history.filter Turn.opens).length ≤ 1 := by
  cases h.stands with
  | unopened _ hopens =>
    rw [List.filter_eq_nil_iff.mpr (by simpa using hopens)]
    exact Nat.zero_le 1
  | running _ hopened => exact Nat.le_of_eq hopened.once
  | ended _ hopened => exact Nat.le_of_eq hopened.once

/-- An append of an event that can be stored returns, or is told off. -/
theorem Made.append_storable (h : Made disk (pre ++ t :: post) w) {r : Event.Record α}
    (hc : t.call = .append r) (hs : Storable r) :
    t.stored? = some r ∨ (∃ fault, t.result = .error (.lifecycle fault)) ∧
      (t.stage = .open → r.number ∈ (stored pre).map (·.number)) := by
  obtain ⟨hmade, -⟩ := h.split
  obtain ⟨call, before⟩ := t
  obtain rfl : call = .append r := hc
  by_cases ho : before.session.stage = .open
  · obtain ⟨title, given, holds, -⟩ := hmade.stands.of_open ho
    rcases holds.put_cases hmade.hazards r with ⟨f, hr, -, hf⟩ | ⟨hr, -⟩
    · obtain ⟨hmem, rfl⟩ := hf hs
      refine .inr ⟨⟨.alreadyWritten r.number, ?_⟩, fun _ => hmem⟩
      simp only [Turn.result, Call.perform, hr, Except.map]
    · left
      simp only [Turn.stored?, Turn.result, Call.perform, hr, Except.map]
  · refine .inr ⟨⟨.cannotWrite r.number before.session.stage, ?_⟩, fun hopen => absurd hopen ho⟩
    simp only [Turn.result, Call.perform, Desk.put_refused ho, Except.map]

theorem Made.stored_once (h : Made disk history w) {n : Int}
    (hstorable : ∀ t ∈ history, ∀ r, t.call = .append r → r.number = n → Storable r)
    (hopen : ∃ t ∈ history, t.stage = .open ∧ ∃ r, t.call = .append r ∧ r.number = n) :
    ∃ pre t post r, history = pre ++ t :: post ∧ t.stored? = some r ∧ r.number = n ∧
      ∀ u ∈ pre ++ post, ∀ q, u.call = .append q → q.number = n →
        ∃ fault, u.result = .error (.lifecycle fault) := by
  have hone : ∃ u ∈ history, ∃ r, u.stored? = some r ∧ r.number = n := by
    obtain ⟨t, ht, ho, r, hc, rfl⟩ := hopen
    obtain ⟨pre, post, rfl⟩ := List.append_of_mem ht
    rcases h.append_storable hc (hstorable t ht r hc rfl) with hr | ⟨-, hmem⟩
    · exact ⟨t, ht, r, hr, rfl⟩
    · obtain ⟨q, hq, he⟩ := List.mem_map.mp (hmem ho)
      obtain ⟨u, hu, hs⟩ := List.mem_filterMap.mp hq
      exact ⟨u, List.mem_append_left _ hu, q, hs, he⟩
  obtain ⟨t, ht, r, hr, rfl⟩ := hone
  obtain ⟨pre, post, rfl⟩ := List.append_of_mem ht
  refine ⟨pre, t, post, r, rfl, hr, rfl, ?_⟩
  intro u hu q hc hq
  have hmem : u ∈ pre ++ t :: post := by
    rcases List.mem_append.mp hu with hu | hu <;> simp [hu]
  have hdistinct := h.distinct
  have hsplit : stored (pre ++ t :: post) = stored pre ++ r :: stored post := by
    simp [stored, hr]
  rw [hsplit, List.map_append, List.map_cons, List.nodup_append, List.nodup_cons] at hdistinct
  obtain ⟨-, ⟨hpost, -⟩, hpre⟩ := hdistinct
  obtain ⟨before, after, hb⟩ := List.append_of_mem hmem
  rcases (hb ▸ h).append_storable hc (hstorable u hmem q hc hq) with hs | ⟨hfault, -⟩
  · exfalso
    rcases List.mem_append.mp hu with hu | hu
    · have hin : q ∈ stored pre := List.mem_filterMap.mpr ⟨u, hu, hs⟩
      exact hpre _ (List.mem_map_of_mem hin) _ List.mem_cons_self hq
    · have hin : q ∈ stored post := List.mem_filterMap.mpr ⟨u, hu, hs⟩
      exact hpost (hq ▸ List.mem_map_of_mem hin)
  · exact hfault

theorem Made.closed_early (h : Made disk (pre ++ t :: post) w) (hc : t.call = .close)
    (hopens : ∀ u ∈ pre, u.opens = false) : t.result = .error (.lifecycle .neverOpened) := by
  have hclosed {given : String} (hopened : OpenedOnce pre given) : False := by
    obtain ⟨u, hu, ho, -⟩ := hopened.call
    rw [hopens u hu] at ho
    contradiction
  cases h.split.1.stands with
  | unopened hsession =>
    have hclose := Desk.close_unopened (w := t.before) (by rw [hsession])
    simp only [Turn.result, hc, Call.perform, hclose, Except.map]
  | running _ hopened => exact (hclosed hopened).elim
  | ended _ hopened => exact (hclosed hopened).elim

theorem tells_of_closed {title : Title} {path : Path} {rs : List (Event.Record α)}
    (h : w.Closed title path rs) {name : String} (hname : path.SpelledBy name) :
    Tells w.disk name rs :=
  ⟨_, _, byNumber rs, readRun_of_find h.disk hname, header_storedFile title rs, rfl,
    records_storedFile h.storable, byNumber_perm rs⟩

/-- Once the run was opened, every close tells what has been stored, and leaves it closed. -/
theorem Made.closes_stored (h : Made disk (pre ++ t :: post) w) (hc : t.call = .close)
    (hopens : ∃ u ∈ pre, u.opens = true) :
    t.result = .ok (some (stored pre).length) ∧
      ∃ title given, t.after.Closed title (.ofText given) (stored pre) ∧
        OpenedOnce pre given := by
  obtain ⟨call, before⟩ := t
  obtain rfl : call = .close := hc
  cases h.split.1.stands with
  | unopened _ hnone =>
    obtain ⟨u, hu, ho⟩ := hopens
    rw [hnone u hu] at ho
    contradiction
  | running holds hopened =>
    refine ⟨?_, _, _, holds.close.2, hopened⟩
    simp only [Turn.result, Call.perform, holds.close.1, Except.map]
  | @ended title given closed hopened =>
    have hclose := Desk.close_closed closed.stage
    have hcount : before.session.count = (stored pre).length := closed.count
    refine ⟨?_, title, given, ?_, hopened⟩
    · simp only [Turn.result, Call.perform, hclose, Except.map, hcount]
    · simpa only [Turn.after, Call.perform, hclose] using closed

theorem Made.closed_counts (h : Made disk (pre ++ t :: post) w) (hc : t.call = .close)
    (hopens : ∃ u ∈ pre, u.opens = true) :
    t.result = .ok (some (stored (pre ++ t :: post)).length) ∧
      ∃ u ∈ pre, u.opens = true ∧ ∃ given run detector config,
        u.call = .openRun given run detector config ∧
        (Path.ofText given).SpelledBy (Path.ofText given).text ∧
        ∀ name, (Path.ofText given).SpelledBy name →
          Tells t.after.disk name (stored (pre ++ t :: post)) := by
  obtain ⟨hresult, title, given, closed, hopened⟩ := h.closes_stored hc hopens
  have hcloses : t.closes = true := by simp only [Turn.closes, hc, hresult]
  obtain ⟨u, hu, ho, run, detector, config, hcall⟩ := hopened.call
  rw [h.stored_closes hcloses]
  exact ⟨hresult, u, hu, ho, given, run, detector, config, hcall,
    Disk.spelledBy_of_find (Path.ofText_normal given) closed.disk,
    fun name hname => tells_of_closed closed hname⟩

theorem Made.refused (h : Made disk (pre ++ t :: post) w) {fault : LifecycleFault}
    (hr : t.result = .error (.lifecycle fault)) : t.after = t.before := by
  cases h.comes with
  | refused _ ha => exact ha
  | unopened _ hr' hf =>
    rw [hr] at hr'
    exact absurd (Except.error.inj hr').symm (hf fault)
  | opened _ _ hr' => simp [hr] at hr'
  | stored _ _ hr' => simp [hr] at hr'
  | closed _ _ hr' => simp [hr] at hr'
  | again _ _ hr' => simp [hr] at hr'

theorem Made.forward (h : Made disk (pre ++ t :: post) w) :
    t.after.session.stage = t.stage ∨
    (t.opens = true ∧ t.stage = .uninitialized ∧ t.after.session.stage = .open) ∨
    (t.closes = true ∧ t.stage = .open ∧ t.after.session.stage = .closed) := by
  cases h.comes with
  | refused _ ha => exact .inl (by rw [ha, Turn.stage])
  | unopened _ _ _ ha => exact .inl (by rw [ha, Turn.stage])
  | opened hs hc hr ha =>
    exact .inr (.inl ⟨by simp only [Turn.opens, hc, hr], hs, ha.session.stage⟩)
  | stored hs hc hr ha =>
    obtain ⟨title, given, holds, -⟩ := h.split.1.stands.of_open hs
    exact .inl ((ha _ _ holds).session.stage.trans hs.symm)
  | closed hs hc hr ha =>
    obtain ⟨title, given, holds, -⟩ := h.split.1.stands.of_open hs
    exact .inr (.inr ⟨by simp only [Turn.closes, hc, hr], hs, (ha _ _ holds).stage⟩)
  | again hs _ _ ha => exact .inl (by rw [ha, Turn.stage])

theorem Made.protocol (h : Made disk history w) : Protocol history where
  opened_once := h.opened_once
  stored_between := by
    rintro pre t post r rfl ht
    exact h.stored_between ht
  stored_once n := h.stored_once
  written_open := by
    rintro ⟨call, before⟩ - hs r rfl
    simp only [Turn.result, Call.perform, Desk.put_refused hs, Except.map, Turn.stage]
  closed_early := by
    rintro pre t post rfl
    exact h.closed_early
  closed_counts := by
    rintro pre t post rfl
    exact h.closed_counts
  unchanged t ht fault := by
    obtain ⟨pre, post, rfl⟩ := List.append_of_mem ht
    exact h.refused
  forward t ht := by
    obtain ⟨pre, post, rfl⟩ := List.append_of_mem ht
    exact h.forward

/-- A session, and the calls that each of several threads has yet to make of it. -/
structure Monitor (α : Type) where
  desk : Desk α
  threads : List (List (Call α))
  history : List (Turn α) := []

/-- One of the threads makes its next call while all others wait. -/
inductive Monitor.Step : Monitor α → Monitor α → Prop
  | call (desk : Desk α) (history : List (Turn α)) (c : Call α) (rest : List (Call α))
      (earlier later : List (List (Call α))) :
      Step ⟨desk, earlier ++ (c :: rest) :: later, history⟩
        ⟨(c.perform desk).state, earlier ++ rest :: later, history ++ [⟨c, desk⟩]⟩

def Monitor.calls (m : Monitor α) : List (Call α) :=
  m.history.map (·.call) ++ m.threads.flatten

theorem Monitor.Step.calls_perm {m m' : Monitor α} (h : Step m m') : m'.calls.Perm m.calls := by
  obtain ⟨desk, history, c, rest, earlier, later⟩ := h
  simp only [Monitor.calls, List.map_append, List.map_cons, List.map_nil, List.flatten_append,
    List.flatten_cons, List.append_assoc, List.cons_append, List.nil_append]
  exact List.Perm.append_left _ (List.perm_middle.symm)

/-- However the calls of several threads come one after the other, each of them is made once at
most, and the session keeps to the protocol. -/
theorem session_keeps_protocol {threads : List (List (Call α))} {m : Monitor α}
    (h : Relation.ReflTransGen Monitor.Step { desk := { disk }, threads } m) :
    Made disk m.history m.desk ∧ m.calls.Perm threads.flatten ∧ Protocol m.history := by
  have hreached : Made disk m.history m.desk ∧ m.calls.Perm threads.flatten := by
    induction h with
    | refl => exact ⟨.start, .refl _⟩
    | tail _ hstep ih =>
      refine ⟨?_, hstep.calls_perm.trans ih.2⟩
      obtain ⟨desk, history, c, rest, earlier, later⟩ := hstep
      exact ih.1.call c
  exact ⟨hreached.1, hreached.2, hreached.1.protocol⟩

def rivals : List (List (Call Float)) :=
  [[.openRun "run.h5" (.whole 5) "telescope" none, .append (planeRecord 3 7), .close],
    [.append (planeRecord 3 8), .close]]

theorem session_keeps_protocol_rivals :
    ∃ m : Monitor Float,
      Relation.ReflTransGen Monitor.Step { desk := usedDesk, threads := rivals } m ∧
      m.threads = [[], []] ∧ Protocol m.history ∧
      m.history.map Turn.result = [.ok none, .ok none,
        .error (.lifecycle (.alreadyWritten 3)), .ok (some 1), .ok (some 1)] := by
  have hopened := Relation.ReflTransGen.single (Monitor.Step.call usedDesk []
    (.openRun "run.h5" (.whole 5) "telescope" none)
    [.append (planeRecord 3 7), .close] [] [[.append (planeRecord 3 8), .close]])
  have hstored := hopened.tail (.call _ _ (.append (planeRecord 3 8)) [.close]
    [[.append (planeRecord 3 7), .close]] [])
  have hrefused := hstored.tail (.call _ _ (.append (planeRecord 3 7)) [.close] [] [[.close]])
  have hclosed := hrefused.tail (.call _ _ .close [] [[.close]] [])
  have hagain := hclosed.tail (.call _ _ .close [] [] [[]])
  exact ⟨_, hagain, rfl, (session_keeps_protocol hagain).2.2, rfl⟩

end PixelTelescope.Run
