import PixelTelescope.Event.Truth
import PixelTelescope.Proofs.Distinct
import PixelTelescope.Proofs.Outcome

namespace PixelTelescope.Event

variable {α : Type}

def Placed.matched (p : Placed α) : Bool := !p.hit.particles.isEmpty

/-- Hits without particles have none to offer. -/
theorem particles_matched (placed : List (Placed α)) :
    (placed.flatMap fun p => p.hit.particles.map (p, ·)) =
      (placed.filter Placed.matched).flatMap fun p => p.hit.particles.map (p, ·) := by
  induction placed with
  | nil => rfl
  | cons p rest ih =>
    cases hp : p.hit.particles with
    | nil => simpa [Placed.matched, hp] using ih
    | cons first others => simpa [Placed.matched, hp] using ih

structure Match.Of (p : Placed α) (m : Match α) : Prop where
  collection : m.collection = p.collection
  index : m.index = p.index
  sensorId : m.sensorId = p.row.sensorId
  signal : m.signal = p.row.signal
  particles : p.hit.particles = m.particles
  points : m.points.length = m.particles.length

variable {ms : List (Match α)}

theorem Match.of_ofPlaced [Scalar α] {p : Placed α} {first : Particle α}
    {others : List (Particle α)} (hp : p.hit.particles = first :: others) {kept : Option (Match α)}
    (h : Match.ofPlaced p = .ok kept) : ∃ m, kept = some m ∧ Match.Of p m := by
  simp only [Match.ofPlaced, hp] at h
  obtain ⟨points, hpoints, h⟩ := bind_eq_ok.mp h
  obtain ⟨x, -, h⟩ := bind_eq_ok.mp h
  obtain ⟨y, -, h⟩ := bind_eq_ok.mp h
  obtain rfl := Except.ok.inj h
  exact ⟨_, rfl, rfl, rfl, rfl, rfl, hp, (mapM_eq_ok.mp hpoints).length_eq.symm⟩

/-- A match keeps the pixel as it was delivered. -/
theorem pixel_of_ofPlaced [Scalar α] {p : Placed α} {m : Match α}
    (h : Match.ofPlaced p = .ok (some m)) :
    p.hit.column.amount = .ok m.x ∧ p.hit.row.amount = .ok m.y := by
  unfold Match.ofPlaced at h
  split at h
  · cases Except.ok.inj h
  · obtain ⟨points, -, h⟩ := bind_eq_ok.mp h
    obtain ⟨x, hx, h⟩ := bind_eq_ok.mp h
    obtain ⟨y, hy, h⟩ := bind_eq_ok.mp h
    obtain rfl := Option.some.inj (Except.ok.inj h)
    exact ⟨liftM_eq_ok.mp hx, liftM_eq_ok.mp hy⟩

theorem Match.of_kept [Scalar α] {p : Placed α} {m : Match α}
    (h : Match.ofPlaced p = .ok (some m)) : Match.Of p m := by
  cases hp : p.hit.particles with
  | nil => simp [Match.ofPlaced, hp] at h
  | cons first others =>
    obtain ⟨m', hm', hof⟩ := Match.of_ofPlaced hp h
    exact Option.some.inj hm' ▸ hof

theorem exists_placed_of_kept [Scalar α] {placed : List (Placed α)} {kept : List (Option (Match α))}
    (h : placed.mapM Match.ofPlaced = .ok kept) {m : Match α} (hm : m ∈ kept.filterMap id) :
    ∃ p ∈ placed, Match.ofPlaced p = .ok (some m) := by
  obtain ⟨k, hk, rfl⟩ := List.mem_filterMap.mp hm
  exact exists_of_mem_right (mapM_eq_ok.mp h) hk

/-- All hits with particles, and no others, are kept, in order. -/
theorem matches_of [Scalar α] {placed : List (Placed α)} {kept : List (Option (Match α))}
    (h : placed.mapM Match.ofPlaced = .ok kept) :
    List.Forall₂ Match.Of (placed.filter Placed.matched) (kept.filterMap id) := by
  have hkept := mapM_eq_ok.mp h
  clear h
  induction hkept with
  | nil => exact .nil
  | @cons p k rest more hp _ ih =>
    cases hparticles : p.hit.particles with
    | nil =>
      simp only [Match.ofPlaced, hparticles, Except.ok.injEq] at hp
      simpa [Placed.matched, hparticles, ← hp] using ih
    | cons first others =>
      obtain ⟨m, rfl, hm⟩ := Match.of_ofPlaced hparticles hp
      simpa [Placed.matched, hparticles] using ⟨hm, ih⟩

/-- The tables, and what they are made from. -/
theorem Truth.ofPlaced_parts [Scalar α] {placed : List (Placed α)} {t : Truth α}
    (h : Truth.ofPlaced placed = .ok t) :
    ∃ kept hits, placed.mapM Match.ofPlaced = .ok kept ∧
      simHitTable (kept.filterMap id) = .ok hits ∧
      t = {
        clusters := clusterTable (kept.filterMap id), links := linkTable (kept.filterMap id)
        simHits := hits, tracks := trackTable (kept.filterMap id) } := by
  obtain ⟨kept, hkept, h⟩ := bind_eq_ok.mp h
  dsimp only at h
  split at h
  · contradiction
  · obtain ⟨hits, hhits, h⟩ := bind_eq_ok.mp h
    exact ⟨kept, hits, hkept, hhits, (Except.ok.inj h).symm⟩

theorem key_mem_clusterKeys {m : Match α} (hm : m ∈ ms) : m.key ∈ clusterKeys ms :=
  List.mem_eraseDups.mpr (List.mem_map_of_mem hm)

section Clusters

variable [Scalar α]

theorem clusterTable_getElem? (ms : List (Match α)) (id : Nat) :
    (clusterTable ms)[id]? = (clusterKeys ms)[id]?.map fun key =>
      let members := ms.filter fun m => m.key = key
      { id, sensorId := key.1, track := key.2, size := members.length
        signal := total (members.map (·.signal)), x := centre members (·.x)
        y := centre members (·.y) } := by
  cases h : (clusterKeys ms)[id]? with
  | none => simp [clusterTable, h]
  | some key => simp [clusterTable, h]

theorem length_clusterTable (ms : List (Match α)) :
    (clusterTable ms).length = (clusterKeys ms).length := by
  simp [clusterTable]

/-- The clusters are numbered as they come. -/
theorem clusterTable_ids (ms : List (Match α)) :
    (clusterTable ms).map (·.id) = List.range (clusterTable ms).length := by
  rw [length_clusterTable, List.range_eq_range', ← List.zipIdx_map_snd 0 (clusterKeys ms),
    clusterTable, List.map_map]
  rfl

theorem clusterTable_keys (ms : List (Match α)) :
    (clusterTable ms).map (fun c => (c.sensorId, c.track)) = clusterKeys ms := by
  conv_rhs => rw [← List.zipIdx_map_fst 0 (clusterKeys ms)]
  rw [clusterTable, List.map_map]
  rfl

/-- The cluster of a hit is that of its sensor and leading track. -/
theorem clusterTable_idxOf {m : Match α} (hm : m ∈ ms) :
    ∃ c, (clusterTable ms)[(clusterKeys ms).idxOf m.key]? = some c ∧
      c.id = (clusterKeys ms).idxOf m.key ∧ (c.sensorId, c.track) = m.key := by
  have hlt := List.idxOf_lt_length_of_mem (key_mem_clusterKeys hm)
  rw [clusterTable_getElem?, List.getElem?_eq_getElem hlt, List.getElem_idxOf hlt]
  exact ⟨_, rfl, rfl, rfl⟩

theorem linkTable_appearance (ms : List (Match α)) :
    ((linkTable ms).map (·.cluster)).eraseDups = List.range (clusterTable ms).length := by
  rw [length_clusterTable, clusterKeys, ← eraseDups_map_idxOf, linkTable, List.map_map,
    List.map_map]
  rfl

/-- The members of a cluster are what its links lead to. -/
theorem clusterTable_members {c : Cluster α} (hc : c ∈ clusterTable ms) :
    let members := ms.filter fun m => m.key = (c.sensorId, c.track)
    (linkTable ms).filter (·.cluster = c.id) =
        members.map (fun m => ⟨m.collection, m.index, c.id⟩) ∧
      c.size = members.length ∧ 0 < members.length ∧
      c.signal = total (members.map (·.signal)) := by
  obtain ⟨id, hid⟩ := List.getElem?_of_mem hc
  obtain ⟨key, hkey, rfl⟩ := Option.map_eq_some_iff.mp (clusterTable_getElem? ms id ▸ hid)
  have hd : (clusterKeys ms).Nodup := nodup_eraseDups _
  obtain ⟨hlt, hget⟩ := List.getElem?_eq_some_iff.mp hkey
  have hiff : ∀ m ∈ ms, ((clusterKeys ms).idxOf m.key = id ↔ m.key = key) := by
    intro m hm
    rw [← hget]
    constructor
    · rintro rfl
      exact (List.getElem_idxOf hlt).symm
    · intro he
      rw [he, hd.idxOf_getElem]
  refine ⟨?_, rfl, ?_, rfl⟩
  · rw [linkTable, List.filter_map]
    have hfilter : ms.filter ((fun l : ClusterLink => decide (l.cluster = id)) ∘
        fun m => ⟨m.collection, m.index, (clusterKeys ms).idxOf m.key⟩) =
        ms.filter fun m => decide (m.key = key) := by
      apply List.filter_congr
      intro m hm
      simp [hiff m hm]
    rw [hfilter]
    apply List.map_congr_left
    intro m hm
    obtain ⟨hm, hk⟩ := List.mem_filter.mp hm
    rw [(hiff m hm).mpr (of_decide_eq_true hk)]
  · obtain ⟨m, hm, he⟩ := List.mem_map.mp (List.mem_eraseDups.mp (hget ▸ List.getElem_mem hlt :
      key ∈ (ms.map Match.key).eraseDups))
    exact List.length_pos_of_mem (List.mem_filter.mpr ⟨hm, by simpa using he⟩)

/-- The centre of a cluster is that of its members. -/
theorem clusterTable_centre {c : Cluster α} (hc : c ∈ clusterTable ms) :
    let members := ms.filter fun m => m.key = (c.sensorId, c.track)
    c.x = centre members (·.x) ∧ c.y = centre members (·.y) := by
  obtain ⟨id, hid⟩ := List.getElem?_of_mem hc
  obtain ⟨key, -, rfl⟩ := Option.map_eq_some_iff.mp (clusterTable_getElem? ms id ▸ hid)
  exact ⟨rfl, rfl⟩

end Clusters

structure SimHit.Of (m : Match α) (p : Particle α) (s : SimHit α) : Prop where
  collection : s.collection = m.collection
  hit : s.hit = m.index
  sensorId : s.sensorId = m.sensorId
  track : s.track = p.track
  pdg : s.pdg = p.pdg

/-- A row that could be made: the numbers of its particle fit, and its point has coordinates. -/
structure SimHit.Made [Scalar α] (q : Match α × Particle α × Tensor α × Tensor α × Tensor α)
    (s : SimHit α) : Prop where
  of : SimHit.Of q.1 q.2.1 s
  track : fitsColumn q.2.1.track = true
  pdg : fitsColumn q.2.1.pdg = true
  x : q.2.2.1.single? = .ok s.x
  y : q.2.2.2.1.single? = .ok s.y
  z : q.2.2.2.2.single? = .ok s.z

theorem simHitTable_made [Scalar α] {hits : List (SimHit α)} (h : simHitTable ms = .ok hits) :
    List.Forall₂ SimHit.Made (ms.flatMap fun m => (m.particles.zip m.points).map (m, ·)) hits := by
  refine (mapM_eq_ok.mp h).imp ?_
  rintro ⟨m, p, px, py, pz⟩ s hs
  dsimp only at hs
  split at hs
  · contradiction
  · rename_i hfits
    obtain ⟨htrack, hpdg⟩ := by simpa using hfits
    obtain ⟨x, hx, hs⟩ := bind_eq_ok.mp hs
    obtain ⟨y, hy, hs⟩ := bind_eq_ok.mp hs
    obtain ⟨z, hz, hs⟩ := bind_eq_ok.mp hs
    obtain rfl := Except.ok.inj hs
    exact ⟨⟨rfl, rfl, rfl, rfl, rfl⟩, htrack, hpdg, liftShape_eq_ok.mp hx, liftShape_eq_ok.mp hy,
      liftShape_eq_ok.mp hz⟩

/-- Every particle behind every hit has its row, in order. -/
theorem simHitTable_rows [Scalar α] {hits : List (SimHit α)} (h : simHitTable ms = .ok hits)
    (hp : ∀ m ∈ ms, m.points.length = m.particles.length) :
    List.Forall₂ (fun q s => SimHit.Of q.1 q.2 s) (ms.flatMap fun m => m.particles.map (m, ·))
      hits := by
  have hzip : (ms.flatMap fun m => m.particles.map (m, ·)) =
      (ms.flatMap fun m => (m.particles.zip m.points).map (m, ·)).map fun q => (q.1, q.2.1) := by
    rw [List.map_flatMap]
    apply List.flatMap_congr
    intro m hm
    conv_lhs => rw [← List.map_fst_zip (Nat.le_of_eq (hp m hm).symm)]
    rw [List.map_map, List.map_map]
    rfl
  rw [hzip, List.forall₂_map_left_iff]
  exact (simHitTable_made h).imp fun _ _ hs => hs.of

section Tracks

variable {hits : List (SimHit α)}

theorem simHits_particles
    (h : List.Forall₂ (fun q s => SimHit.Of q.1 q.2 s)
      (ms.flatMap fun m => m.particles.map (m, ·)) hits) :
    hits.map (fun s => (s.sensorId, s.track, s.pdg)) =
      (ms.flatMap fun m => m.particles.map (m.sensorId, ·)).map
        fun q => (q.1, q.2.track, q.2.pdg) := by
  have hmap : ((ms.flatMap fun m => m.particles.map (m, ·)).map
      fun q => (q.1.sensorId, q.2.track, q.2.pdg)) =
      (ms.flatMap fun m => m.particles.map (m.sensorId, ·)).map
        fun q => (q.1, q.2.track, q.2.pdg) := by
    simp [List.map_flatMap, Function.comp_def]
  rw [← hmap]
  refine (map_eq_of_forall₂ h ?_).symm
  rintro ⟨m, p⟩ s hs
  rw [hs.sensorId, hs.track, hs.pdg]

/-- What the table says of a track is what the rows with its number say. -/
theorem onTrack_rows
    (h : List.Forall₂ (fun q s => SimHit.Of q.1 q.2 s)
      (ms.flatMap fun m => m.particles.map (m, ·)) hits) (track : Int) :
    (hits.filter (·.track = track)).map (fun s => (s.sensorId, s.pdg)) =
      (onTrack ms track).map fun q => (q.1, q.2.pdg) := by
  have hrows := congrArg (fun rows => (rows.filter (·.2.1 = track)).map fun row => (row.1, row.2.2))
    (simHits_particles h)
  simpa only [onTrack, List.filter_map, List.map_map, Function.comp_def] using hrows

theorem trackIds_increasing (ms : List (Match α)) : (trackIds ms).Pairwise (· < ·) :=
  mergeSort_increasing (f := id) (by rw [List.map_id]; exact nodup_eraseDups _)

/-- The tracks are those that have particles. -/
theorem mem_trackIds {track : Int} : track ∈ trackIds ms ↔ onTrack ms track ≠ [] := by
  rw [trackIds, (List.mergeSort_perm _ _).mem_iff, List.mem_eraseDups, onTrack, ne_eq,
    List.filter_eq_nil_iff]
  simp only [List.mem_flatMap, List.mem_map, decide_eq_true_eq, not_forall, not_not]
  constructor
  · rintro ⟨m, hm, p, hp, rfl⟩
    exact ⟨(m.sensorId, p), ⟨m, hm, p, hp, rfl⟩, rfl⟩
  · rintro ⟨_, ⟨m, hm, p, hp, rfl⟩, he⟩
    exact ⟨m, hm, p, hp, he⟩

theorem mem_trackIds_iff_row
    (h : List.Forall₂ (fun q s => SimHit.Of q.1 q.2 s)
      (ms.flatMap fun m => m.particles.map (m, ·)) hits) {track : Int} :
    track ∈ trackIds ms ↔ track ∈ hits.map (·.track) := by
  have hlength := congrArg List.length (onTrack_rows h track)
  rw [List.length_map, List.length_map] at hlength
  rw [mem_trackIds, ← List.length_pos_iff_ne_nil, ← hlength, List.length_pos_iff_exists_mem]
  simp

/-- A track counts its rows and their sensors, and has the code of the first of them. -/
theorem trackTable_counts
    (h : List.Forall₂ (fun q s => SimHit.Of q.1 q.2 s)
      (ms.flatMap fun m => m.particles.map (m, ·)) hits) :
    ∀ k ∈ trackTable ms, k.hits = (hits.filter (·.track = k.track)).length ∧
      k.sensors = ((hits.filter (·.track = k.track)).map (·.sensorId)).eraseDups.length ∧
      (hits.filter (·.track = k.track)).head?.map (·.pdg) = some k.pdg := by
  intro k hk
  obtain ⟨track, htrack, rfl⟩ := List.mem_map.mp hk
  have hrows := onTrack_rows h track
  have hlength := congrArg List.length hrows
  have hsensors := congrArg (List.map Prod.fst) hrows
  have hfirst := congrArg (fun rows => rows.head?.map Prod.snd) hrows
  rw [List.length_map, List.length_map] at hlength
  simp only [List.map_map, Function.comp_def] at hsensors
  simp only [List.head?_map, Option.map_map, Function.comp_def] at hfirst
  refine ⟨hlength.symm, congrArg (fun ids => ids.eraseDups.length) hsensors.symm, ?_⟩
  obtain ⟨first, rest, hfound⟩ := List.exists_cons_of_ne_nil (mem_trackIds.mp htrack)
  rw [hfirst, hfound]
  rfl

end Tracks

end PixelTelescope.Event
