import PixelTelescope.Proofs.Distinct
import PixelTelescope.Proofs.Event.Accepted
import PixelTelescope.Table.Events

namespace PixelTelescope.Table

open Event (fitsColumn deliveries)

section Numbers

variable {α : Type} {rows : List (Row α)}

theorem eventNumbers_increasing (rows : List (Row α)) :
    (eventNumbers rows).Pairwise (· < ·) := by
  unfold eventNumbers
  split
  · rw [List.pairwise_map]
    exact List.pairwise_lt_range.imp fun h => by omega
  · exact .nil

/-- The numbers go from the least to the greatest of a row, without a gap. -/
theorem mem_eventNumbers {n : Int} :
    n ∈ eventNumbers rows ↔ ∃ a ∈ rows, ∃ b ∈ rows, a.event ≤ n ∧ n ≤ b.event := by
  unfold eventNumbers
  split
  · rename_i first last hfirst hlast
    obtain ⟨hfmem, hfle⟩ := List.min?_eq_some_iff.mp hfirst
    obtain ⟨hlmem, hlle⟩ := List.max?_eq_some_iff.mp hlast
    obtain ⟨a, ha, rfl⟩ := List.mem_map.mp hfmem
    obtain ⟨b, hb, rfl⟩ := List.mem_map.mp hlmem
    rw [List.mem_map]
    constructor
    · rintro ⟨i, hi, rfl⟩
      have hlt := List.mem_range.mp hi
      exact ⟨a, ha, b, hb, by omega, by omega⟩
    · rintro ⟨a', ha', b', hb', hle, hle'⟩
      have hfirst := hfle _ (List.mem_map_of_mem ha')
      have hlast := hlle _ (List.mem_map_of_mem hb')
      exact ⟨(n - a.event).toNat, List.mem_range.mpr (by omega), by omega⟩
  · rename_i hnone
    cases rows with
    | nil => simp
    | cons r rest => exact (hnone _ _ rfl rfl).elim

theorem eventsOf_ok [Scalar α] {numbers : List Int}
    (h : ∀ n ∈ numbers, ∃ list, messages (rows.filter (·.event = n)) = .ok list) :
    (eventsOf rows numbers).failure = none ∧ (eventsOf rows numbers).events.map (·.1) = numbers ∧
      ∀ e ∈ (eventsOf rows numbers).events, messages (rows.filter (·.event = e.1)) = .ok e.2 := by
  induction numbers with
  | nil => exact ⟨rfl, rfl, by simp [eventsOf]⟩
  | cons n rest ih =>
    obtain ⟨list, hlist⟩ := h n List.mem_cons_self
    obtain ⟨hfailure, hnumbers, hevents⟩ := ih fun m hm => h m (List.mem_cons_of_mem _ hm)
    simp only [eventsOf, hlist]
    exact ⟨hfailure, by rw [List.map_cons, hnumbers], List.forall_mem_cons.mpr ⟨hlist, hevents⟩⟩

end Numbers

/-- A hit that a run takes: one of its detectors, and numbers that the columns hold. -/
structure Row.Sound (names : List String) (r : Row Float) : Prop where
  detector : ∃ d ∈ names, r.detector = some d
  column : fitsColumn r.column = true
  row : fitsColumn r.row = true
  time : ∃ t, r.time.toScalar = .ok t
  track : ∀ track, r.track = some track → ∃ n, track.toInt = .ok n ∧ fitsColumn n = true
  pdg : ∀ code, r.pdg = some code → ∃ n, code.toInt = .ok n ∧ fitsColumn n = true

def fitting (x : Reading Float) : Bool := x.toInt.toOption.any fitsColumn

theorem fitting_iff {x : Reading Float} :
    fitting x = true ↔ ∃ n, x.toInt = .ok n ∧ fitsColumn n = true := any_toOption

instance (names : List String) (r : Row Float) : Decidable (r.Sound names) :=
  decidable_of_iff (r.detector.any names.contains = true ∧ fitsColumn r.column = true ∧
      fitsColumn r.row = true ∧ r.time.toScalar.toOption.any (fun _ => true) = true ∧
      r.track.all fitting = true ∧ r.pdg.all fitting = true) <| by
    constructor
    · rintro ⟨hd, hc, hr, ht, htrack, hpdg⟩
      obtain ⟨d, hd, hn⟩ := (Option.any_eq_true _ _).mp hd
      obtain ⟨t, ht, -⟩ := any_toOption.mp ht
      exact ⟨⟨d, List.contains_iff_mem.mp hn, hd⟩, hc, hr, ⟨t, ht⟩,
        fun track h => fitting_iff.mp ((Option.all_eq_true _ _).mp htrack track h),
        fun code h => fitting_iff.mp ((Option.all_eq_true _ _).mp hpdg code h)⟩
    · rintro ⟨⟨d, hn, hd⟩, hc, hr, ⟨t, ht⟩, htrack, hpdg⟩
      refine ⟨by simp [hd, hn], hc, hr, by simp [ht, Except.toOption], ?_, ?_⟩
      · exact (Option.all_eq_true _ _).mpr fun track h => fitting_iff.mpr (htrack track h)
      · exact (Option.all_eq_true _ _).mpr fun code h => fitting_iff.mpr (hpdg code h)

variable {names : List String} {r : Row Float} {rows : List (Row Float)}

theorem Row.Sound.particles (h : r.Sound names) :
    ∃ ps, r.particles = .ok ps ∧ ∀ p ∈ ps, fitsColumn p.track = true ∧ fitsColumn p.pdg = true ∧
      p.entry = .zeros [3] ∧ p.exit = .zeros [3] := by
  unfold Row.particles
  cases ht : r.track with
  | none => exact ⟨[], rfl, by simp⟩
  | some track =>
    obtain ⟨n, hn, hfits⟩ := h.track track ht
    dsimp only
    rw [bind_of_ok (liftM_eq_ok.mpr hn)]
    by_cases hneg : n < 0
    · exact ⟨[], if_pos hneg, by simp⟩
    · rw [if_neg hneg]
      cases hp : r.pdg with
      | none =>
        have hzero : fitsColumn 0 = true := by decide
        exact ⟨_, rfl, by simpa using ⟨hfits, hzero⟩⟩
      | some code =>
        obtain ⟨pdg, hcode, hpfits⟩ := h.pdg code hp
        dsimp only
        rw [bind_of_ok (liftM_eq_ok.mpr hcode)]
        exact ⟨_, rfl, by simpa using ⟨hfits, hpfits⟩⟩

structure Row.Gives (r : Row Float) (hit : Event.Hit Float) : Prop where
  ok : r.hit = .ok hit
  plain : hit.Plain
  column : hit.column = .whole r.column
  row : hit.row = .whole r.row
  signal : hit.signal = .real r.signal
  time : ∃ t, r.time.toScalar = .ok t ∧ hit.time = .real t

theorem Row.Sound.gives (h : r.Sound names) : ∃ hit, r.Gives hit := by
  obtain ⟨t, ht⟩ := h.time
  obtain ⟨ps, hps, hplain⟩ := h.particles
  refine ⟨⟨r.detectorName, .whole r.column, .whole r.row, .real r.signal, .real t, ps⟩, ?_,
    ⟨⟨_, rfl, h.column⟩, ⟨_, rfl, h.row⟩, ⟨_, rfl⟩, ⟨_, rfl⟩, hplain⟩, rfl, rfl, rfl, t, ht, rfl⟩
  rw [Row.hit, ht]
  exact bind_eq_ok.mpr ⟨t, rfl, bind_eq_ok.mpr ⟨ps, hps, rfl⟩⟩

def byDetector (rows : List (Row Float)) : List (Row Float) :=
  grouped (·.detector) (rows.map (·.detector)).eraseDups rows

theorem byDetector_perm (rows : List (Row Float)) : (byDetector rows).Perm rows :=
  grouped_perm (nodup_eraseDups _) fun _ h => List.mem_eraseDups.mpr (List.mem_map_of_mem h)

/-- The rows of one detector stay in their order. -/
theorem filter_byDetector (rows : List (Row Float)) (d : Option String) :
    (byDetector rows).filter (·.detector = d) = rows.filter (·.detector = d) := by
  by_cases hd : d ∈ (rows.map (·.detector)).eraseDups
  · exact filter_grouped_of_mem (nodup_eraseDups _) hd rows
  · rw [byDetector, filter_grouped_of_not_mem hd]
    refine (List.filter_eq_nil_iff.mpr fun r hr he => hd ?_).symm
    exact List.mem_eraseDups.mpr (List.mem_map.mpr ⟨r, hr, of_decide_eq_true he⟩)

abbrev Hits := List (Option String × Event.Hit Float)

theorem hits_ok (h : ∀ r ∈ rows, r.Sound names) : ∃ hits : Hits,
    (rows.mapM fun r => return (r.detector, ← r.hit) : Except Failure Hits) = .ok hits ∧
      List.Forall₂ (fun r hit => hit.1 = r.detector ∧ r.Gives hit.2) rows hits := by
  refine exists_mapM_ok fun r hr => ?_
  obtain ⟨hit, hhit⟩ := (h r hr).gives
  exact ⟨(r.detector, hit), bind_eq_ok.mpr ⟨hit, hhit.ok, rfl⟩, rfl, hhit⟩

/-- Grouped hits are delivered as their rows are by detector. -/
theorem deliveries_group {hits : Hits}
    (hgives : List.Forall₂ (fun r hit => hit.1 = r.detector ∧ r.Gives hit.2) rows hits)
    (hkeys : hits.map (·.1) = rows.map (·.detector))
    (hnamed : ∀ k ∈ (rows.map (·.detector)).eraseDups, ∃ d ∈ names, k = some d) :
    List.Forall₂ (fun r d => r.detector = some d.1.detector ∧ r.Gives d.2) (byDetector rows)
      (deliveries (group hits)) := by
  rw [deliveries, group, hkeys, List.flatMap_map]
  refine List.rel_flatMap (List.forall₂_same.mpr fun k hk => ⟨rfl, hnamed k hk⟩ :
    List.Forall₂ (fun k k' => k = k' ∧ ∃ d ∈ names, k = some d) _ _) ?_
  rintro _ k ⟨rfl, d, -, rfl⟩
  beta_reduce
  rw [List.forall₂_map_right_iff, List.forall₂_map_right_iff]
  have hsame := List.rel_filter (p := fun r : Row Float => r.detector = some d)
    (q := fun h : Option String × Event.Hit Float => h.1 = some d)
    (R := fun r h => h.1 = r.detector ∧ r.Gives h.2) (fun r h hrh => by simp [hrh.1]) hgives
  refine (forall₂_mem hsame).imp ?_
  rintro r hit ⟨hr, -, -, hhit⟩
  exact ⟨of_decide_eq_true (List.mem_filter.mp hr).2, hhit⟩

/-- The messages of an event deliver the hits of its rows. -/
theorem messages_ok (h : ∀ r ∈ rows, r.Sound names) :
    ∃ list, messages rows = .ok list ∧ (∀ m ∈ list, m.detector ∈ names) ∧
      List.Forall₂ (fun r d => r.detector = some d.1.detector ∧ r.Gives d.2) (byDetector rows)
        (deliveries list) := by
  obtain ⟨hits, hhits, hgives⟩ := hits_ok h
  have hkeys : hits.map (·.1) = rows.map (·.detector) :=
    (map_eq_of_forall₂ hgives fun _ _ h => h.1.symm).symm
  have hnamed : ∀ k ∈ (rows.map (·.detector)).eraseDups, ∃ d ∈ names, k = some d := by
    intro k hk
    obtain ⟨r, hr, rfl⟩ := List.mem_map.mp (List.mem_eraseDups.mp hk)
    exact (h r hr).detector
  refine ⟨group hits, bind_eq_ok.mpr ⟨hits, hhits, rfl⟩, ?_,
    deliveries_group hgives hkeys hnamed⟩
  intro m hm
  obtain ⟨k, hk, rfl⟩ := List.mem_map.mp hm
  obtain ⟨d, hd, rfl⟩ := hnamed k (hkeys ▸ hk)
  exact hd

end PixelTelescope.Table
