import Mathlib.Data.List.ProdSigma
import Mathlib.Data.List.Sort
import PixelTelescope.Proofs.Event.OrderFree

namespace PixelTelescope.Event

variable {α : Type} {ms : List (Match α)} {sensors tracks : List Int} {code : Int}

/-- Hits of one particle each: one for every sensor and track. -/
structure OnGrid (ms : List (Match α)) (sensors tracks : List Int) (code : Int) : Prop where
  keys : ms.map Match.key = sensors ×ˢ tracks
  alone : ∀ m ∈ ms, m.others = []
  code : ∀ m ∈ ms, m.first.pdg = code
  sensors : sensors.Nodup
  tracks : tracks.Pairwise (· < ·)

namespace OnGrid

theorem nodup (h : OnGrid ms sensors tracks code) : (ms.map Match.key).Nodup := by
  rw [h.keys]
  exact h.sensors.product h.tracks.nodup

theorem clusterKeys_eq (h : OnGrid ms sensors tracks code) :
    clusterKeys ms = sensors ×ˢ tracks := by
  rw [clusterKeys, eraseDups_of_nodup h.nodup, h.keys]

/-- The hits of a grid are clusters of their own. -/
theorem size_eq_one [Scalar α] (h : OnGrid ms sensors tracks code) :
    ∀ c ∈ clusterTable ms, c.size = 1 := by
  intro c hc
  obtain ⟨-, hsize, hpos, -⟩ := clusterTable_members hc
  obtain ⟨m, hm⟩ := List.exists_mem_of_length_pos hpos
  obtain ⟨hm, hkey⟩ := List.mem_filter.mp hm
  have hkey : m.key = (c.sensorId, c.track) := of_decide_eq_true hkey
  rw [hsize, ← hkey, filter_of_nodup_map h.nodup hm]
  rfl

theorem onTrack_eq (h : OnGrid ms sensors tracks code) (track : Int) :
    onTrack ms track = (ms.filter fun m => m.first.track = track).map
      fun m => (m.sensorId, m.first) := by
  have hparticles : (ms.flatMap fun m => m.particles.map (m.sensorId, ·)) =
      ms.map fun m => (m.sensorId, m.first) := by
    rw [List.map_eq_flatMap]
    refine List.flatMap_congr fun m hm => ?_
    rw [Match.particles, h.alone m hm]
    rfl
  rw [onTrack, hparticles, List.filter_map]
  rfl

/-- A track has crossed every sensor once. -/
theorem sensors_onTrack (h : OnGrid ms sensors tracks code) {track : Int} (ht : track ∈ tracks) :
    (onTrack ms track).map Prod.fst = sensors := by
  have hpairs : (onTrack ms track).map Prod.fst =
      ((ms.map Match.key).filter fun key => key.2 = track).map Prod.fst := by
    rw [h.onTrack_eq, List.filter_map, List.map_map, List.map_map]
    rfl
  have hrow : (tracks.filter fun t => t = track) = [track] := by
    have hd : (tracks.map id).Nodup := by simpa using h.tracks.nodup
    exact filter_of_nodup_map hd ht
  rw [hpairs, h.keys]
  clear hpairs h
  induction sensors with
  | nil => rfl
  | cons sensor rest ih =>
    rw [List.product_cons, List.filter_append, List.map_append, ih, List.filter_map]
    have hsame : ((fun key : Int × Int => decide (key.2 = track)) ∘ fun t => (sensor, t)) =
        fun t => decide (t = track) := rfl
    rw [hsame, hrow]
    rfl

theorem trackIds_eq (h : OnGrid ms sensors tracks code) (hs : sensors ≠ []) :
    trackIds ms = tracks := by
  refine (trackIds_increasing ms).eq_of_mem_iff h.tracks fun track => ?_
  rw [mem_trackIds]
  constructor
  · intro hne
    rw [h.onTrack_eq, ne_eq, List.map_eq_nil_iff] at hne
    obtain ⟨m, hm⟩ := List.exists_mem_of_ne_nil _ hne
    obtain ⟨hm, htrack⟩ := List.mem_filter.mp hm
    have hkey : m.key ∈ sensors ×ˢ tracks := h.keys ▸ List.mem_map_of_mem hm
    exact of_decide_eq_true htrack ▸ (List.mem_product.mp hkey).2
  · intro ht hnil
    have hsensors := h.sensors_onTrack ht
    rw [hnil] at hsensors
    exact hs hsensors.symm

/-- The tracks of a grid have one hit in every sensor. -/
theorem trackTable_eq (h : OnGrid ms sensors tracks code) (hs : sensors ≠ []) :
    trackTable ms = tracks.map fun t => ⟨t, code, sensors.length, sensors.length⟩ := by
  rw [trackTable, h.trackIds_eq hs]
  refine List.map_congr_left fun track ht => ?_
  have hsensors := h.sensors_onTrack ht
  have hlength : (onTrack ms track).length = sensors.length := by
    rw [← hsensors, List.length_map]
  have hcode : ((onTrack ms track).head?.map (·.2.pdg)).getD 0 = code := by
    cases hmembers : onTrack ms track with
    | nil =>
      rw [hmembers] at hsensors
      exact absurd hsensors.symm hs
    | cons q rest =>
      have hq : q ∈ onTrack ms track := hmembers ▸ List.mem_cons_self
      rw [h.onTrack_eq] at hq
      obtain ⟨m, hm, rfl⟩ := List.mem_map.mp hq
      exact h.code m (List.mem_filter.mp hm).1
  dsimp only
  rw [hcode, hlength, hsensors, eraseDups_of_nodup h.sensors]

end OnGrid

/-- Where every hit has particles, every hit is matched, in the order of delivery. -/
theorem matches_of_build [Scalar α] {b : Builder} {n : Int} {messages : List (Message α)}
    {r : Record α} (ht : b.truth = true) (h : b.build n messages = .ok r)
    (hall : ∀ d ∈ deliveries messages, d.2.particles ≠ []) :
    ∃ t ms, r.truth = some t ∧ t.clusters = clusterTable ms ∧ t.tracks = trackTable ms ∧
      List.Forall₂ (fun d m => b.assignment.sensorIdFor d.1.detector = .ok m.sensorId ∧
        d.2.particles = m.particles) (deliveries messages) ms := by
  obtain ⟨encoded, hencodes, hcollections, htruth⟩ := Builder.build_parts h
  obtain ⟨t, hplaced, hsome⟩ := htruth ht
  obtain ⟨kept, hkept, hclusters, -, htracks⟩ := Truth.ofPlaced_tables hplaced
  have hseats := Builder.seats_of_encodes hcollections hencodes
  have hmatched : (place [] encoded).filter Placed.matched = place [] encoded := by
    refine List.filter_eq_self.mpr fun p hp => ?_
    obtain ⟨d, hd, hseat⟩ := exists_of_mem_right hseats hp
    have hparticles := hall d hd
    rw [← hseat.hit] at hparticles
    simpa [Placed.matched] using hparticles
  have hof := matches_of hkept
  rw [hmatched] at hof
  refine ⟨t, kept.filterMap id, hsome, hclusters, htracks, (forall₂_comp hseats hof).imp ?_⟩
  rintro d m ⟨p, hseat, hm⟩
  exact ⟨hm.sensorId ▸ hseat.sensor, hseat.hit ▸ hm.particles⟩

end PixelTelescope.Event
