import PixelTelescope.Proofs.Event.Joins

namespace PixelTelescope.Event

variable {α : Type} [Scalar α] {b : Builder} {n : Int} {messages : List (Message α)} {r : Record α}
  {placed : List (Placed α)} {ms : List (Match α)}

structure SimHit.At (p : Particle α) (s : SimHit α) : Prop where
  track : s.track = p.track
  point : ∃ x y z, Match.point p = .ok (x, y, z) ∧ x.single? = .ok s.x ∧ y.single? = .ok s.y ∧
    z.single? = .ok s.z

theorem points_of_ofPlaced {p : Placed α} {m : Match α} (h : Match.ofPlaced p = .ok (some m)) :
    m.particles.mapM Match.point = .ok m.points := by
  unfold Match.ofPlaced at h
  split at h
  · cases Except.ok.inj h
  · obtain ⟨points, hpoints, h⟩ := bind_eq_ok.mp h
    obtain ⟨x, -, h⟩ := bind_eq_ok.mp h
    obtain ⟨y, -, h⟩ := bind_eq_ok.mp h
    obtain rfl := Option.some.inj (Except.ok.inj h)
    exact hpoints

theorem points_of_kept {kept : List (Option (Match α))}
    (h : placed.mapM Match.ofPlaced = .ok kept) :
    ∀ m ∈ kept.filterMap id, m.particles.mapM Match.point = .ok m.points := by
  intro m hm
  obtain ⟨p, -, hp⟩ := exists_placed_of_kept h hm
  exact points_of_ofPlaced hp

/-- Every row names the middle of the way of its particle. -/
theorem simHitTable_points {hits : List (SimHit α)} (h : simHitTable ms = .ok hits)
    (hp : ∀ m ∈ ms, m.particles.mapM Match.point = .ok m.points) :
    List.Forall₂ SimHit.At (ms.flatMap Match.particles) hits := by
  have hzip : ms.flatMap Match.particles =
      (ms.flatMap fun m => (m.particles.zip m.points).map (m, ·)).map fun q => q.2.1 := by
    rw [List.map_flatMap]
    refine List.flatMap_congr fun m hm => ?_
    rw [List.map_map]
    exact (List.map_fst_zip (Nat.le_of_eq (mapM_eq_ok.mp (hp m hm)).length_eq)).symm
  rw [hzip, List.forall₂_map_left_iff]
  refine (forall₂_mem (simHitTable_made h)).imp ?_
  rintro ⟨m, p, px, py, pz⟩ s ⟨hq, -, hs⟩
  obtain ⟨m', hm', hq⟩ := List.mem_flatMap.mp hq
  obtain ⟨⟨p', point⟩, hpair, he⟩ := List.mem_map.mp hq
  obtain ⟨rfl, hpair'⟩ := Prod.mk.inj he
  obtain ⟨rfl, rfl⟩ := Prod.mk.inj hpair'
  have hpoint := List.forall₂_iff_zip.mp (mapM_eq_ok.mp (hp _ hm'))
  exact ⟨hs.of.track, px, py, pz, hpoint.2 hpair, hs.x, hs.y, hs.z⟩

/-- The particles that the matches of a record keep are those that were delivered, in order. -/
theorem particles_of_matches (h : List.Forall₂ (b.Seats r) (deliveries messages) placed)
    (hof : List.Forall₂ Match.Of (placed.filter Placed.matched) ms) :
    ms.flatMap Match.particles = (deliveries messages).flatMap fun d => d.2.particles := by
  have hkept : (placed.filter Placed.matched).flatMap (fun p => p.hit.particles) =
      placed.flatMap fun p => p.hit.particles := by
    have hpairs := congrArg (List.map Prod.snd) (particles_matched placed)
    simpa [List.map_flatMap, Function.comp_def] using hpairs.symm
  have hmatches := map_eq_of_forall₂ hof (f := fun p => p.hit.particles) (g := Match.particles)
    fun p m hm => hm.particles
  have hseats := map_eq_of_forall₂ h (f := fun d => d.2.particles) (g := fun p => p.hit.particles)
    fun d p hp => by rw [hp.hit]
  rw [List.flatMap_def, ← hmatches, ← List.flatMap_def, hkept, List.flatMap_def, ← hseats,
    ← List.flatMap_def]

/-- The truth of a record has one row for each particle that was delivered, at the middle of its
way. -/
theorem simHits_of_build (ht : b.truth = true) (h : b.build n messages = .ok r) :
    ∃ t, r.truth = some t ∧ List.Forall₂ (fun q s => SimHit.At q.2 s)
      ((deliveries messages).flatMap fun d => d.2.particles.map (d, ·)) t.simHits := by
  obtain ⟨encoded, hencodes, hcollections, htruth⟩ := Builder.build_parts h
  obtain ⟨t, hplaced, hsome⟩ := htruth ht
  refine ⟨t, hsome, ?_⟩
  have hseats := Builder.seats_of_encodes hcollections hencodes
  obtain ⟨kept, hits, hkept, hhits, rfl⟩ := Truth.ofPlaced_parts hplaced
  have hrows := simHitTable_points hhits (points_of_kept hkept)
  rw [particles_of_matches hseats (matches_of hkept)] at hrows
  have hpairs : (deliveries messages).flatMap (fun d => d.2.particles) =
      ((deliveries messages).flatMap fun d => d.2.particles.map (d, ·)).map Prod.snd := by
    simp [List.map_flatMap, Function.comp_def]
  rw [hpairs] at hrows
  exact List.forall₂_map_left_iff.mp hrows

end PixelTelescope.Event
