import PixelTelescope.Proofs.Table.Cast
import PixelTelescope.Proofs.Table.Events

namespace PixelTelescope.Table

section Rows

variable {α : Type} {rows other : List (Row α)}

/-- Which events there are is a matter of the numbers in the table, not of their order. -/
theorem eventNumbers_congr (h : ∀ n, other.filter (·.event = n) = rows.filter (·.event = n)) :
    eventNumbers other = eventNumbers rows := by
  have hmem (r : Row α) : r ∈ other ↔ r ∈ rows := by
    have hr := congrArg (r ∈ ·) (h r.event)
    simpa using hr
  have hperm : (eventNumbers other).Perm (eventNumbers rows) := by
    refine (List.perm_ext_iff_of_nodup ((eventNumbers_increasing other).imp Int.ne_of_lt)
      ((eventNumbers_increasing rows).imp Int.ne_of_lt)).mpr fun n => ?_
    simp only [mem_eventNumbers, hmem]
  exact hperm.eq_of_pairwise (fun a b _ _ hab hba => absurd hab (by omega))
    (eventNumbers_increasing other) (eventNumbers_increasing rows)

variable [Scalar α]

/-- The particles that a row tells of: one if it has a track that is not negative. -/
inductive Row.Traced (r : Row α) : List (Event.Particle α) → Prop
  | untracked (hr : r.track = none) : Traced r []
  | negative {x : Reading α} {n : Int} (hr : r.track = some x) (hn : x.toInt = .ok n)
      (hneg : n < 0) : Traced r []
  | tracked {x : Reading α} {n pdg : Int} (hr : r.track = some x) (hn : x.toInt = .ok n)
      (hpos : 0 ≤ n) (hmissing : r.pdg = none → pdg = 0)
      (hcode : ∀ code, r.pdg = some code → code.toInt = .ok pdg) :
      Traced r [{ track := n, pdg, entry := .zeros [3], exit := .zeros [3] }]

structure Row.Becomes (r : Row α) (hit : Event.Hit α) : Prop where
  detector : hit.detector = r.detectorName
  column : hit.column = .whole r.column
  row : hit.row = .whole r.row
  signal : hit.signal = .real r.signal
  time : ∃ t, r.time.toScalar = .ok t ∧ hit.time = .real t
  particles : r.Traced hit.particles

/-- A row in whose optional columns there are numbers, as far as there is anything. -/
structure Row.Readable (r : Row α) : Prop where
  time : ∃ t, r.time.toScalar = .ok t
  track : ∀ x, r.track = some x → ∃ n, x.toInt = .ok n
  pdg : ∀ code, r.pdg = some code → ∃ n, code.toInt = .ok n

variable {r : Row α} {list : List (Event.Message α)}

theorem Row.particles_traced {ps : List (Event.Particle α)} (h : r.particles = .ok ps) :
    r.Traced ps := by
  unfold Row.particles at h
  split at h
  · rename_i hr
    exact Except.ok.inj h ▸ .untracked hr
  · rename_i x hr
    obtain ⟨n, hn, h⟩ := bind_eq_ok.mp h
    have hn := liftM_eq_ok.mp hn
    split at h
    · rename_i hneg
      exact Except.ok.inj h ▸ .negative hr hn hneg
    · rename_i hpos
      have hpos := Int.not_lt.mp hpos
      dsimp only at h
      split at h
      · rename_i code hcode
        obtain ⟨pdg, hp, h⟩ := bind_eq_ok.mp h
        have hp := liftM_eq_ok.mp hp
        refine Except.ok.inj h ▸ .tracked hr hn hpos (fun hnone => ?_) fun c hc => ?_
        · rw [hcode] at hnone
          contradiction
        · rw [← Option.some.inj (hcode.symm.trans hc)]
          exact hp
      · rename_i hnone
        refine Except.ok.inj h ▸ .tracked hr hn hpos (fun _ => rfl) fun c hc => ?_
        rw [hnone] at hc
        contradiction

theorem Row.hit_becomes {hit : Event.Hit α} (h : r.hit = .ok hit) : r.Becomes hit := by
  obtain ⟨t, ht, h⟩ := bind_eq_ok.mp h
  obtain ⟨ps, hps, h⟩ := bind_eq_ok.mp h
  obtain rfl := Except.ok.inj h
  exact ⟨rfl, rfl, rfl, rfl, ⟨t, liftM_eq_ok.mp ht, rfl⟩, particles_traced hps⟩

theorem Row.Readable.particles (h : r.Readable) : ∃ ps, r.particles = .ok ps := by
  unfold Row.particles
  cases ht : r.track with
  | none => exact ⟨[], rfl⟩
  | some x =>
    obtain ⟨n, hn⟩ := h.track x ht
    dsimp only
    rw [bind_of_ok (liftM_eq_ok.mpr hn)]
    by_cases hneg : n < 0
    · exact ⟨[], if_pos hneg⟩
    · rw [if_neg hneg]
      cases hp : r.pdg with
      | none => exact ⟨_, rfl⟩
      | some code =>
        obtain ⟨pdg, hpdg⟩ := h.pdg code hp
        dsimp only
        rw [bind_of_ok (liftM_eq_ok.mpr hpdg)]
        exact ⟨_, rfl⟩

theorem Row.Readable.hit (h : r.Readable) : ∃ hit, r.hit = .ok hit := by
  obtain ⟨t, ht⟩ := h.time
  obtain ⟨ps, hps⟩ := h.particles
  exact ⟨_, bind_eq_ok.mpr ⟨t, liftM_eq_ok.mpr ht, bind_eq_ok.mpr ⟨ps, hps, rfl⟩⟩⟩

/-- One message for each detector of some rows, in the order in which the detectors first appear,
with the hits of its rows in their order. -/
def Forms (rows : List (Row α)) (list : List (Event.Message α)) : Prop :=
  List.Forall₂ (fun detector (m : Event.Message α) =>
    m.detector = detector.getD missingDetector ∧
      List.Forall₂ Row.Becomes (rows.filter (·.detector = detector)) m.hits)
    (rows.map (·.detector)).eraseDups list

theorem messages_form (h : messages rows = .ok list) : Forms rows list := by
  obtain ⟨hits, hhits, h⟩ := bind_eq_ok.mp h
  obtain rfl := Except.ok.inj h
  have hall : List.Forall₂ (fun r (hit : Option String × Event.Hit α) =>
      hit.1 = r.detector ∧ r.Becomes hit.2) rows hits := by
    refine (mapM_eq_ok.mp hhits).imp fun r hit hr => ?_
    obtain ⟨found, hfound, hr⟩ := bind_eq_ok.mp hr
    obtain rfl := Except.ok.inj hr
    exact ⟨rfl, Row.hit_becomes hfound⟩
  have hkeys : hits.map (·.1) = rows.map (·.detector) :=
    (map_eq_of_forall₂ hall fun _ _ hr => hr.1.symm).symm
  rw [Forms, group, hkeys, List.forall₂_map_right_iff]
  refine List.forall₂_same.mpr fun detector _ => ⟨rfl, ?_⟩
  rw [List.forall₂_map_right_iff]
  refine List.Forall₂.imp (fun r hit hr => hr.2) (List.rel_filter (fun r hit hr => ?_) hall)
  simp [hr.1]

theorem messages_readable (h : ∀ r ∈ rows, r.Readable) : ∃ list, messages rows = .ok list := by
  obtain ⟨hits, hhits, -⟩ := exists_mapM_ok (R := fun _ _ => True)
    (f := fun r : Row α => return (r.detector, ← r.hit)) fun r hr => by
      obtain ⟨hit, hhit⟩ := (h r hr).hit
      exact ⟨(r.detector, hit), bind_eq_ok.mpr ⟨hit, hhit, rfl⟩, trivial⟩
  exact ⟨group hits, bind_eq_ok.mpr ⟨hits, hhits, rfl⟩⟩

theorem events_congr (h : ∀ n, other.filter (·.event = n) = rows.filter (·.event = n)) :
    events other = events rows := by
  have hsame (numbers : List Int) : eventsOf other numbers = eventsOf rows numbers := by
    induction numbers with
    | nil => rfl
    | cons n rest ih => simp only [eventsOf, h, ih]
  rw [events, events, eventNumbers_congr h, hsame]

end Rows

variable {layout : Layout} {sheet : Sheet} {count : Nat} {rows : List (Row Float)}

/-- The lines of a table become one event for each number from the least to the greatest, in this
order and whatever order the lines are in: an event has a message for each detector of its lines, and
none where the table has no line of it. -/
theorem rows_become_contiguous_events (htable : sheet.IsTable count)
    (hrows : rowsOf layout sheet = .ok rows) (hne : rows ≠ [])
    (hreadable : ∀ r ∈ rows, r.Readable) :
    ∃ first last typed, first ∈ rows.map (·.event) ∧ last ∈ rows.map (·.event) ∧
      (∀ r ∈ rows, first ≤ r.event ∧ r.event ≤ last) ∧
      (events rows).failure = none ∧
      ((events rows).events.map (·.1)).Pairwise (· < ·) ∧
      (∀ n, n ∈ (events rows).events.map (·.1) ↔ first ≤ n ∧ n ≤ last) ∧
      (∀ e ∈ (events rows).events, ((∀ r ∈ rows, r.event ≠ e.1) → e.2 = []) ∧
        Forms (rows.filter (·.event = e.1)) e.2) ∧
      (∀ other, (∀ n, other.filter (·.event = n) = rows.filter (·.event = n)) →
        events other = events rows) ∧
      rows.length = count ∧ sheet.Lists layout typed rows := by
  obtain ⟨first, hfirst⟩ := Option.isSome_iff_exists.mp
    (List.isSome_min?_of_ne_nil (l := rows.map (·.event)) (by simpa using hne))
  obtain ⟨last, hlast⟩ := Option.isSome_iff_exists.mp
    (List.isSome_max?_of_ne_nil (l := rows.map (·.event)) (by simpa using hne))
  obtain ⟨hfmem, hfle⟩ := List.min?_eq_some_iff.mp hfirst
  obtain ⟨hlmem, hlle⟩ := List.max?_eq_some_iff.mp hlast
  have hread : ∀ n ∈ eventNumbers rows, ∃ list, messages (rows.filter (·.event = n)) = .ok list :=
    fun n _ => messages_readable fun r hr => hreadable r (List.mem_filter.mp hr).1
  obtain ⟨hfailure, hnumbers, hevents⟩ := eventsOf_ok hread
  obtain ⟨hlength, typed, hlists⟩ := rowsOf_lists htable hrows
  refine ⟨first, last, typed, hfmem, hlmem, ?_, hfailure, ?_, ?_, ?_, fun _ => events_congr,
    hlength, hlists⟩
  · intro r hr
    exact ⟨hfle _ (List.mem_map_of_mem hr), hlle _ (List.mem_map_of_mem hr)⟩
  · rw [events, hnumbers]
    exact eventNumbers_increasing rows
  · intro n
    obtain ⟨a, ha, rfl⟩ := List.mem_map.mp hfmem
    obtain ⟨b, hb, rfl⟩ := List.mem_map.mp hlmem
    rw [events, hnumbers, mem_eventNumbers]
    constructor
    · rintro ⟨a', ha', b', hb', hle, hle'⟩
      exact ⟨Int.le_trans (hfle _ (List.mem_map_of_mem ha')) hle,
        Int.le_trans hle' (hlle _ (List.mem_map_of_mem hb'))⟩
    · rintro ⟨hle, hle'⟩
      exact ⟨a, ha, b, hb, hle, hle'⟩
  · intro e he
    have hforms := messages_form (hevents e he)
    refine ⟨fun hnone => ?_, hforms⟩
    have hempty : rows.filter (·.event = e.1) = [] :=
      List.filter_eq_nil_iff.mpr fun r hr => by simpa using hnone r hr
    rw [hempty] at hforms
    exact List.forall₂_nil_left_iff.mp hforms

theorem Row.Sound.readable {names : List String} {r : Row Float} (h : r.Sound names) :
    r.Readable where
  time := h.time
  track x hx := (h.track x hx).imp fun _ hn => hn.1
  pdg code hcode := (h.pdg code hcode).imp fun _ hn => hn.1

def mixedSheet : Sheet where
  names := ["event", "detector", "column", "row", "signal", "mc_track"]
  columns := [
    [.int 3, .int (-1), .int 3, .int 3], [.text "far", .text "near", .text "near", .text "far"],
    [.int 1, .int 5, .int 7, .int 9], [.int 2, .int 6, .int 8, .int 9],
    [.float 2.5, .float 1.0, .float 1.0, .float 0.5], [.int 4, missing, .int (-1), .int 0]]

theorem rows_become_contiguous_events_mixed :
    ∃ rows, rowsOf {} mixedSheet = .ok rows ∧
      rows.map (fun r => (r.event, r.detector, r.column, r.row)) =
        [(3, some "far", 1, 2), (-1, some "near", 5, 6), (3, some "near", 7, 8),
          (3, some "far", 9, 9)] ∧
      (∀ n, n ∈ (events rows).events.map (·.1) ↔ -1 ≤ n ∧ n ≤ 3) ∧
      (∀ e ∈ (events rows).events, Forms (rows.filter (·.event = e.1)) e.2) ∧
      ∃ typed, mixedSheet.Lists {} typed rows := by
  have hall : (rowsOf {} mixedSheet).toOption.any (fun rows =>
      rows.map (fun r => (r.event, r.detector, r.column, r.row)) =
        [(3, some "far", 1, 2), (-1, some "near", 5, 6), (3, some "near", 7, 8),
          (3, some "far", 9, 9)] ∧ ∀ r ∈ rows, r.Sound ["near", "far"]) = true := by
    decide +kernel
  have htable : mixedSheet.IsTable 4 := ⟨rfl, by decide, by decide⟩
  obtain ⟨rows, hrows, hsound⟩ := any_toOption.mp hall
  obtain ⟨hcells, hsound⟩ := of_decide_eq_true hsound
  obtain ⟨first, last, typed, hfirst, hlast, hbetween, -, -, hmem, hforms, -, -, hlists⟩ :=
    rows_become_contiguous_events htable hrows (fun h => by simp [h] at hcells)
      fun r hr => (hsound r hr).readable
  have hnumbers : rows.map (·.event) = [3, -1, 3, 3] := by
    have h := congrArg (List.map (·.1)) hcells
    rwa [List.map_map] at h
  have hbounds : ∀ n ∈ rows.map (·.event), first ≤ n ∧ n ≤ last := by simpa using hbetween
  rw [hnumbers] at hfirst hlast hbounds
  have hends : first = -1 ∧ last = 3 := by
    simp only [List.mem_cons, List.not_mem_nil, or_false, forall_eq_or_imp, forall_eq]
      at hfirst hlast hbounds
    omega
  rw [hends.1, hends.2] at hmem
  exact ⟨rows, hrows, hcells, hmem, fun e he => (hforms e he).2, typed, hlists⟩

end PixelTelescope.Table
