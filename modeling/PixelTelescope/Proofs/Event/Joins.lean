import PixelTelescope.Proofs.Event.Matches
import PixelTelescope.Proofs.Event.Placed

namespace PixelTelescope.Event

variable {α : Type} {b : Builder} {n : Int} {messages : List (Message α)} {r : Record α}
  {t : Truth α} {placed : List (Placed α)} {ms : List (Match α)}

theorem simHitTable_joins (h : List.Forall₂ Match.Of (placed.filter Placed.matched) ms)
    (hr : ∀ p ∈ placed, r.row? p.collection p.index = some p.row) {hits : List (SimHit α)}
    (hhits : List.Forall₂ (fun q s => SimHit.Of q.1 q.2 s)
      (ms.flatMap fun m => m.particles.map (m, ·)) hits) :
    List.Forall₂ (fun q s => s.collection = q.1.collection ∧ s.hit = q.1.index ∧
        (r.row? s.collection s.hit).map (·.sensorId) = some s.sensorId ∧
        s.track = q.2.track ∧ s.pdg = q.2.pdg)
      (placed.flatMap fun p => p.hit.particles.map (p, ·)) hits := by
  have hpaired : List.Forall₂ (fun (q : Placed α × Particle α) (q' : Match α × Particle α) =>
        q.1 ∈ placed ∧ Match.Of q.1 q'.1 ∧ q.2 = q'.2)
      ((placed.filter Placed.matched).flatMap fun p => p.hit.particles.map (p, ·))
      (ms.flatMap fun m => m.particles.map (m, ·)) := by
    refine List.rel_flatMap (forall₂_mem h) ?_
    rintro p m ⟨hp, -, hof⟩
    beta_reduce
    rw [hof.particles, List.forall₂_map_left_iff, List.forall₂_map_right_iff, List.forall₂_same]
    exact fun q _ => ⟨(List.mem_filter.mp hp).1, hof, rfl⟩
  rw [particles_matched]
  refine (forall₂_comp hpaired hhits).imp ?_
  rintro ⟨p, q⟩ s ⟨⟨m, _⟩, ⟨hp, hof, rfl⟩, hs⟩
  have hcollection := hs.collection.trans hof.collection
  have hindex := hs.hit.trans hof.index
  refine ⟨hcollection, hindex, ?_, hs.track, hs.pdg⟩
  rw [hcollection, hindex, hr p hp, hs.sensorId, hof.sensorId]
  rfl

variable [Scalar α]

/-- The four tables of a record are one view of its hits; `placed` are the hits with their places. -/
structure Truth.Joins (t : Truth α) (r : Record α) (placed : List (Placed α)) : Prop where
  /-- One link for each hit with particles, to the cluster of its sensor and leading track. -/
  links : List.Forall₂ (fun p l => l.collection = p.collection ∧ l.hit = p.index ∧
      ∃ c first others, t.clusters[l.cluster]? = some c ∧ c.id = l.cluster ∧
        p.hit.particles = first :: others ∧ c.sensorId = p.row.sensorId ∧ c.track = first.track)
    (placed.filter (·.matched)) t.links
  numbered : t.clusters.map (·.id) = List.range t.clusters.length
  /-- The clusters come as the links lead to them first. -/
  appearance : (t.links.map (·.cluster)).eraseDups = List.range t.clusters.length
  distinct : (t.clusters.map fun c => (c.sensorId, c.track)).Nodup
  /-- A cluster sums up the rows that are linked to it. -/
  members : ∀ c ∈ t.clusters, ∃ rows,
    List.Forall₂ (fun l row => r.row? l.collection l.hit = some row)
      (t.links.filter (·.cluster = c.id)) rows ∧
    c.size = rows.length ∧ 0 < rows.length ∧ (∀ row ∈ rows, row.sensorId = c.sensorId) ∧
    c.signal = total (rows.map (·.signal))
  /-- One row for each particle behind each hit. -/
  simHits : List.Forall₂ (fun q s => s.collection = q.1.collection ∧ s.hit = q.1.index ∧
      (r.row? s.collection s.hit).map (·.sensorId) = some s.sensorId ∧
      s.track = q.2.track ∧ s.pdg = q.2.pdg)
    (placed.flatMap fun p => p.hit.particles.map (p, ·)) t.simHits
  increasing : t.tracks.Pairwise fun k l => k.track < l.track
  tracks : ∀ track, track ∈ t.tracks.map (·.track) ↔ track ∈ t.simHits.map (·.track)
  /-- A track sums up the rows with its number. -/
  counts : ∀ k ∈ t.tracks, k.hits = (t.simHits.filter (·.track = k.track)).length ∧
    k.sensors = ((t.simHits.filter (·.track = k.track)).map (·.sensorId)).eraseDups.length ∧
    (t.simHits.filter (·.track = k.track)).head?.map (·.pdg) = some k.pdg

theorem linkTable_links (h : List.Forall₂ Match.Of (placed.filter Placed.matched) ms) :
    List.Forall₂ (fun p l => l.collection = p.collection ∧ l.hit = p.index ∧
      ∃ c first others, (clusterTable ms)[l.cluster]? = some c ∧ c.id = l.cluster ∧
        p.hit.particles = first :: others ∧ c.sensorId = p.row.sensorId ∧ c.track = first.track)
    (placed.filter (·.matched)) (linkTable ms) := by
  rw [linkTable, List.forall₂_map_right_iff]
  refine (forall₂_mem h).imp ?_
  rintro p m ⟨-, hm, hp⟩
  obtain ⟨c, hc, hid, hkey⟩ := clusterTable_idxOf hm
  obtain ⟨hsensor, htrack⟩ := Prod.mk.inj hkey
  exact ⟨hp.collection, hp.index, c, m.first, m.others, hc, hid, hp.particles,
    hsensor.trans hp.sensorId, htrack⟩

theorem clusterTable_rows (h : List.Forall₂ Match.Of (placed.filter Placed.matched) ms)
    (hr : ∀ p ∈ placed, r.row? p.collection p.index = some p.row) :
    ∀ c ∈ clusterTable ms, ∃ rows,
      List.Forall₂ (fun l row => r.row? l.collection l.hit = some row)
        ((linkTable ms).filter (·.cluster = c.id)) rows ∧
      c.size = rows.length ∧ 0 < rows.length ∧ (∀ row ∈ rows, row.sensorId = c.sensorId) ∧
      c.signal = total (rows.map (·.signal)) := by
  intro c hc
  obtain ⟨hlinks, hsize, hpos, hsignal⟩ := clusterTable_members hc
  have hrow : ∀ m ∈ ms.filter fun m => m.key = (c.sensorId, c.track), ∃ row,
      r.row? m.collection m.index = some row ∧ row.sensorId = c.sensorId ∧
        m.signal = row.signal := by
    intro m hm
    obtain ⟨hm, hkey⟩ := List.mem_filter.mp hm
    obtain ⟨p, hp, hof⟩ := exists_of_mem_right h hm
    refine ⟨p.row, ?_, ?_, hof.signal⟩
    · rw [hof.collection, hof.index]
      exact hr p (List.mem_filter.mp hp).1
    · exact hof.sensorId.symm.trans (congrArg Prod.fst (of_decide_eq_true hkey))
  obtain ⟨rows, hrows⟩ := exists_forall₂ hrow
  refine ⟨rows, ?_, hsize.trans hrows.length_eq, hrows.length_eq ▸ hpos, ?_, ?_⟩
  · rw [hlinks, List.forall₂_map_left_iff]
    exact hrows.imp fun _ _ h => h.1
  · intro row hrow
    obtain ⟨m, -, -, hsensor, -⟩ := exists_of_mem_right hrows hrow
    exact hsensor
  · rw [hsignal]
    exact congrArg total (map_eq_of_forall₂ hrows fun _ _ h => h.2.2)

theorem Truth.joins_of_ofPlaced (h : Truth.ofPlaced placed = .ok t)
    (hr : ∀ p ∈ placed, r.row? p.collection p.index = some p.row) : t.Joins r placed := by
  obtain ⟨kept, hits, hkept, hhits, rfl⟩ := Truth.ofPlaced_parts h
  have hof := matches_of hkept
  have hpoints : ∀ m ∈ kept.filterMap id, m.points.length = m.particles.length := by
    intro m hm
    obtain ⟨p, -, hp⟩ := exists_of_mem_right hof hm
    exact hp.points
  have hrows := simHitTable_rows hhits hpoints
  exact {
    links := linkTable_links hof
    numbered := clusterTable_ids _
    appearance := linkTable_appearance _
    distinct := by
      rw [clusterTable_keys]
      exact nodup_eraseDups _
    members := clusterTable_rows hof hr
    simHits := simHitTable_joins hof hr hrows
    increasing := List.pairwise_map.mpr (trackIds_increasing _)
    tracks := by
      intro track
      rw [trackTable, List.map_map]
      exact (by simp : _ ↔ track ∈ trackIds _).trans (mem_trackIds_iff_row hrows)
    counts := trackTable_counts hrows }

/-- The truth of a record, whatever was delivered for its event, is a view of the hits that stand
in the record. -/
theorem truth_joins_hits (ht : b.truth = true) (h : b.build n messages = .ok r) :
    ∃ t placed, r.truth = some t ∧ List.Forall₂ (b.Seats r) (deliveries messages) placed ∧
      (placed.map fun p => (p.collection, p.index)).Nodup ∧ t.Joins r placed := by
  obtain ⟨encoded, hencodes, hcollections, htruth⟩ := Builder.build_parts h
  obtain ⟨t, hplaced, hsome⟩ := htruth ht
  have hseats := Builder.seats_of_encodes hcollections hencodes
  refine ⟨t, place [] encoded, hsome, hseats, positions_distinct [] encoded,
    Truth.joins_of_ofPlaced hplaced fun p hp => ?_⟩
  obtain ⟨delivery, -, hseat⟩ := exists_of_mem_right hseats hp
  exact hseat.row

/-- Two sensors share one collection; the second has one hit of two particles and one of none. -/
def twoSensors : Builder where
  assignment := ⟨[("front", "hits"), ("back", "hits")], [("front", 4), ("back", 9)], ["hits"], .short⟩
  truth := true

def particleAt (track : Int) : Particle Float :=
  ⟨track, 13, .vector [0.0, 0.0, 0.0], .vector [0.0, 0.0, 1.0]⟩

def twoMessages : List (Message Float) := [
  { detector := "back",
    hits := [⟨"back", .whole 1, .whole 2, .real 1.5, .real 0.25, [particleAt 6, particleAt 2]⟩,
      ⟨"back", .whole 3, .whole 2, .real 0.5, .real 0.25, []⟩] },
  { detector := "front",
    hits := [⟨"front", .whole 1, .whole 2, .real 2.5, .real 0.5, [particleAt 6]⟩] }]

theorem truth_joins_hits_shared :
    ∃ r t placed, twoSensors.build 7 twoMessages = .ok r ∧ r.truth = some t ∧
      List.Forall₂ (twoSensors.Seats r) (deliveries twoMessages) placed ∧ t.Joins r placed ∧
      t.links = [⟨0, 0, 0⟩, ⟨0, 2, 1⟩] := by
  have hlinks : (twoSensors.build 7 twoMessages).toOption.bind (fun r => r.truth.map (·.links)) =
      some [⟨0, 0, 0⟩, ⟨0, 2, 1⟩] := by decide +kernel
  cases hbuild : twoSensors.build 7 twoMessages with
  | error f =>
    rw [hbuild] at hlinks
    contradiction
  | ok r =>
    obtain ⟨t, placed, ht, hseats, -, hjoins⟩ := truth_joins_hits rfl hbuild
    simp only [hbuild, Except.toOption, Option.bind_some, ht, Option.map_some,
      Option.some.injEq] at hlinks
    exact ⟨r, t, placed, rfl, ht, hseats, hjoins, hlinks⟩

end PixelTelescope.Event
