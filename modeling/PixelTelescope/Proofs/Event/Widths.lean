import PixelTelescope.Proofs.Assignment.Given
import PixelTelescope.Proofs.Event.Accepted
import PixelTelescope.Proofs.Event.Sensors

namespace PixelTelescope.Event

section Wholes

variable {α : Type}

def Row.wholes (r : Row α) : List Int := [r.sensorId, r.x, r.y]

def Cluster.wholes (c : Cluster α) : List Int := [c.id, c.sensorId, c.track, c.size]

def ClusterLink.wholes (l : ClusterLink) : List Int := [l.collection, l.hit, l.cluster]

def SimHit.wholes (s : SimHit α) : List Int := [s.collection, s.hit, s.sensorId, s.track, s.pdg]

def Track.wholes (k : Track) : List Int := [k.track, k.pdg, k.hits, k.sensors]

def Truth.wholes (t : Truth α) : List Int :=
  t.clusters.flatMap Cluster.wholes ++ t.links.flatMap ClusterLink.wholes ++
    t.simHits.flatMap SimHit.wholes ++ t.tracks.flatMap Track.wholes

def Record.wholes (r : Record α) : List Int :=
  r.rows.flatMap Row.wholes ++ r.truth.toList.flatMap Truth.wholes

end Wholes

theorem fitsColumn_of_le {m n : Nat} (h : m ≤ n) (hn : fitsColumn n = true) :
    fitsColumn m = true := by
  simp only [fitsColumn, Bounds.fits32, Bool.and_eq_true, decide_eq_true_eq] at hn ⊢
  omega

theorem Record.row?_bounds {r : Record Float} {collection index : Nat} {row : Row Float}
    (h : r.row? collection index = some row) :
    collection < r.collections.length ∧ index < r.rows.length := by
  obtain ⟨c, hc, hrow⟩ := Option.bind_eq_some_iff.mp h
  obtain ⟨hlt, -⟩ := List.getElem?_eq_some_iff.mp hc
  obtain ⟨hindex, -⟩ := List.getElem?_eq_some_iff.mp hrow
  have hsub := List.sublist_flatten_of_mem (List.mem_map_of_mem (List.mem_of_getElem? hc)
    (f := Collection.rows))
  exact ⟨hlt, Nat.lt_of_lt_of_le hindex hsub.length_le⟩

structure CountsFit (detectors : List String) (messages : List (Message Float)) : Prop where
  detectors : fitsColumn detectors.length = true
  hits : fitsColumn (deliveries messages).length = true
  particles : fitsColumn ((deliveries messages).flatMap (·.2.particles)).length = true

namespace Truth.Joins

variable {r : Record Float} {t : Truth Float} {placed : List (Placed Float)}

theorem links_length_le (h : t.Joins r placed) : t.links.length ≤ placed.length := by
  rw [← h.links.length_eq]
  exact List.length_filter_le _ _

theorem clusters_length_le (h : t.Joins r placed) : t.clusters.length ≤ t.links.length := by
  have hlength := length_eraseDups_le (t.links.map (·.cluster))
  rwa [h.appearance, List.length_range, List.length_map] at hlength

/-- The leading particle of a cluster has its row. -/
theorem cluster_track (h : t.Joins r placed) {c : Cluster Float} (hc : c ∈ t.clusters) :
    ∃ s ∈ t.simHits, s.track = c.track := by
  obtain ⟨rows, hrows, -, hpos, -⟩ := h.members c hc
  obtain ⟨l, hl⟩ := List.exists_mem_of_length_pos (hrows.length_eq ▸ hpos)
  obtain ⟨hl, hid⟩ := List.mem_filter.mp hl
  obtain ⟨p, hp, -, -, c', first, others, hget, hc', hparticles, -, htrack⟩ :=
    exists_of_mem_right h.links hl
  have hsame : c' = c := by
    have hd : (t.clusters.map (·.id)).Nodup := h.numbered ▸ List.nodup_range
    refine List.inj_on_of_nodup_map hd (List.mem_of_getElem? hget) hc ?_
    exact hc'.trans (of_decide_eq_true hid)
  have hparticle : (p, first) ∈ placed.flatMap fun p => p.hit.particles.map (p, ·) := by
    refine List.mem_flatMap.mpr ⟨p, (List.mem_filter.mp hp).1, ?_⟩
    simp [hparticles]
  obtain ⟨s, hs, -, -, -, hstrack, -⟩ := exists_of_mem_right h.simHits.flip hparticle
  exact ⟨s, hs, hstrack.trans (hsame ▸ htrack).symm⟩

/-- What has to fit, of the rows, the places and the counts, for all of the tables to fit. -/
structure Bounded (t : Truth Float) (r : Record Float) (placed : List (Placed Float)) : Prop where
  sensors : ∀ row ∈ r.rows, fitsColumn row.sensorId = true
  collections : ∀ p ∈ placed, fitsColumn p.collection = true
  places : ∀ p ∈ placed, fitsColumn p.index = true
  hits : fitsColumn placed.length = true
  particles : ∀ s ∈ t.simHits, fitsColumn s.track = true ∧ fitsColumn s.pdg = true
  count : fitsColumn t.simHits.length = true

theorem cluster_fits (h : t.Joins r placed) (hb : Bounded t r placed) {c : Cluster Float}
    (hc : c ∈ t.clusters) : ∀ n ∈ c.wholes, fitsColumn n = true := by
  have hid : c.id < t.clusters.length := by
    have hmem := List.mem_map_of_mem hc (f := (·.id))
    rwa [h.numbered, List.mem_range] at hmem
  have hids : c.id ≤ placed.length :=
    Nat.le_trans (Nat.le_of_lt hid) (Nat.le_trans h.clusters_length_le h.links_length_le)
  have hsize : c.size ≤ placed.length := by
    obtain ⟨rows, hrows, hsize, -⟩ := h.members c hc
    rw [hsize, ← hrows.length_eq]
    exact Nat.le_trans (List.length_filter_le _ _) h.links_length_le
  obtain ⟨row, hrow, hsensor⟩ := h.cluster_row hc
  obtain ⟨s, hs, htrack⟩ := h.cluster_track hc
  have hsensors := hsensor ▸ hb.sensors row hrow
  have htracks := htrack ▸ (hb.particles s hs).1
  simp [Cluster.wholes, fitsColumn_of_le hids hb.hits, hsensors, htracks,
    fitsColumn_of_le hsize hb.hits]

theorem link_fits (h : t.Joins r placed) (hb : Bounded t r placed) {l : ClusterLink}
    (hl : l ∈ t.links) : ∀ n ∈ l.wholes, fitsColumn n = true := by
  obtain ⟨p, hp, hcollection, hhit, c, -, -, hget, -⟩ := exists_of_mem_right h.links hl
  have hplaced := (List.mem_filter.mp hp).1
  have hcluster : l.cluster ≤ placed.length := by
    obtain ⟨hlt, -⟩ := List.getElem?_eq_some_iff.mp hget
    exact Nat.le_trans (Nat.le_of_lt hlt) (Nat.le_trans h.clusters_length_le h.links_length_le)
  simp [ClusterLink.wholes, hcollection, hhit, hb.collections p hplaced, hb.places p hplaced,
    fitsColumn_of_le hcluster hb.hits]

theorem simHit_fits (h : t.Joins r placed) (hb : Bounded t r placed) {s : SimHit Float}
    (hs : s ∈ t.simHits) : ∀ n ∈ s.wholes, fitsColumn n = true := by
  obtain ⟨⟨p, q⟩, hq, hcollection, hhit, -⟩ := exists_of_mem_right h.simHits hs
  have hplaced : p ∈ placed := by
    obtain ⟨p', hp', hq⟩ := List.mem_flatMap.mp hq
    obtain ⟨q', -, he⟩ := List.mem_map.mp hq
    obtain ⟨rfl, -⟩ := Prod.mk.inj he
    exact hp'
  obtain ⟨row, hrow, hsensor⟩ := h.simHit_row hs
  have hsensors := hsensor ▸ hb.sensors row hrow
  obtain ⟨htrack, hpdg⟩ := hb.particles s hs
  simp [SimHit.wholes, hcollection, hhit, hb.collections p hplaced, hb.places p hplaced, hsensors,
    htrack, hpdg]

theorem track_fits (h : t.Joins r placed) (hb : Bounded t r placed) {k : Track}
    (hk : k ∈ t.tracks) : ∀ n ∈ k.wholes, fitsColumn n = true := by
  obtain ⟨hhits, hsensors, hpdg⟩ := h.counts k hk
  obtain ⟨s, hs, hstrack⟩ := List.mem_map.mp ((h.tracks k.track).mp (List.mem_map_of_mem hk))
  obtain ⟨first, hfirst, hfirstpdg⟩ := Option.map_eq_some_iff.mp hpdg
  have hmem := (List.mem_filter.mp (List.mem_of_head? hfirst)).1
  have hcount : k.hits ≤ t.simHits.length := hhits ▸ List.length_filter_le _ _
  have hfew : k.sensors ≤ t.simHits.length := by
    rw [hsensors]
    refine Nat.le_trans (length_eraseDups_le _) ?_
    rw [List.length_map]
    exact List.length_filter_le _ _
  have htracks := hstrack ▸ (hb.particles s hs).1
  have hpdgs := hfirstpdg ▸ (hb.particles first hmem).2
  simp [Track.wholes, htracks, hpdgs, fitsColumn_of_le hcount hb.count,
    fitsColumn_of_le hfew hb.count]

theorem wholes_fit (h : t.Joins r placed) (hb : Bounded t r placed) :
    ∀ n ∈ t.wholes, fitsColumn n = true := by
  intro n hn
  simp only [Truth.wholes, List.mem_append, List.mem_flatMap] at hn
  rcases hn with ((⟨c, hc, hn⟩ | ⟨l, hl, hn⟩) | ⟨s, hs, hn⟩) | ⟨k, hk, hn⟩
  · exact h.cluster_fits hb hc n hn
  · exact h.link_fits hb hl n hn
  · exact h.simHit_fits hb hs n hn
  · exact h.track_fits hb hk n hn

end Truth.Joins

/-- A particle has its row only if its numbers fit. -/
theorem simHits_fit {placed : List (Placed Float)} {t : Truth Float}
    (h : Truth.ofPlaced placed = .ok t) :
    ∀ s ∈ t.simHits, fitsColumn s.track = true ∧ fitsColumn s.pdg = true := by
  obtain ⟨kept, hits, -, hhits, rfl⟩ := Truth.ofPlaced_parts h
  intro s hs
  obtain ⟨q, -, hmade⟩ := exists_of_mem_right (simHitTable_made hhits) hs
  exact ⟨hmade.of.track ▸ hmade.track, hmade.of.pdg ▸ hmade.pdg⟩

namespace Builder

variable {b : Builder} {n : Int} {messages : List (Message Float)} {r : Record Float}

/-- Rows that do not fit make no record. -/
theorem rows_fit (h : b.build n messages = .ok r) : ∀ row ∈ r.rows, row.fits = true := by
  obtain ⟨routes, encoded, hb⟩ := builds_of_build h
  intro row hrow
  obtain ⟨c, hc, hrow⟩ := List.mem_flatMap.mp hrow
  rw [hb.collections] at hc
  obtain ⟨named, -, rfl⟩ := List.mem_map.mp hc
  obtain ⟨e, he, rfl⟩ := List.mem_map.mp hrow
  exact hb.fits e (List.mem_filter.mp he).1

theorem length_collections (h : b.build n messages = .ok r) :
    r.collections.length = b.assignment.names.length := by
  obtain ⟨routes, encoded, hb⟩ := builds_of_build h
  rw [hb.collections, collections, List.length_map, List.length_zipIdx]

theorem length_rows (h : b.build n messages = .ok r) :
    r.rows.length = (deliveries messages).length := by
  obtain ⟨rows, hperm, hdelivered⟩ := rows_delivered h
  rw [← hperm.length_eq, ← hdelivered.length_eq]

/-- The truth has a row for each particle that was delivered. -/
theorem length_simHits {t : Truth Float} {placed : List (Placed Float)}
    (hseats : List.Forall₂ (b.Seats r) (deliveries messages) placed) (h : t.Joins r placed) :
    t.simHits.length = ((deliveries messages).flatMap (·.2.particles)).length := by
  have hhits : (deliveries messages).map (·.2) = placed.map (·.hit) :=
    map_eq_of_forall₂ hseats fun _ _ hseat => hseat.hit.symm
  have hparticles := congrArg (List.flatMap Hit.particles) hhits
  rw [List.flatMap_map, List.flatMap_map] at hparticles
  rw [hparticles, ← h.simHits.length_eq]
  simp only [List.length_flatMap, List.length_map]

/-- All columns of a built record hold their numbers, where the counts fit. -/
theorem wholes_fit {detectors : List String} (h : b.build n messages = .ok r)
    (hnames : b.assignment.names.length ≤ detectors.length)
    (hcounts : CountsFit detectors messages) : ∀ m ∈ r.wholes, fitsColumn m = true := by
  have hrows := rows_fit h
  intro m hm
  rcases List.mem_append.mp hm with hm | hm
  · obtain ⟨row, hrow, hm⟩ := List.mem_flatMap.mp hm
    have hfits := hrows row hrow
    simp only [Row.fits, Bool.and_eq_true] at hfits
    simp only [Row.wholes, List.mem_cons, List.not_mem_nil, or_false] at hm
    rcases hm with rfl | rfl | rfl
    · exact hfits.1.1
    · exact hfits.1.2
    · exact hfits.2
  · obtain ⟨t, ht, hm⟩ := List.mem_flatMap.mp hm
    obtain ⟨placed, hseats, hjoins, hmade⟩ := truth_parts h (Option.mem_toList.mp ht)
    refine hjoins.wholes_fit ⟨?_, ?_, ?_, ?_, simHits_fit hmade, ?_⟩ m hm
    · intro row hrow
      have hfits := hrows row hrow
      simp only [Row.fits, Bool.and_eq_true] at hfits
      exact hfits.1.1
    · intro p hp
      obtain ⟨d, -, hseat⟩ := exists_of_mem_right hseats hp
      have hlt := (Record.row?_bounds hseat.row).1
      rw [length_collections h] at hlt
      exact fitsColumn_of_le (Nat.le_trans (Nat.le_of_lt hlt) hnames) hcounts.detectors
    · intro p hp
      obtain ⟨d, -, hseat⟩ := exists_of_mem_right hseats hp
      have hlt := (Record.row?_bounds hseat.row).2
      rw [length_rows h] at hlt
      exact fitsColumn_of_le (Nat.le_of_lt hlt) hcounts.hits
    · exact hseats.length_eq ▸ hcounts.hits
    · exact length_simHits hseats hjoins ▸ hcounts.particles

/-- A hit that is to stand under a sensor ID too wide for its column ends an event. -/
theorem build_of_wide_id (hplaces : ∀ m ∈ messages, b.assignment.Places m.detector)
    (hencodable : ∀ d ∈ deliveries messages, d.2.Encodable b.pixelType)
    {d : Message Float × Hit Float} (hd : d ∈ deliveries messages) {id : Int}
    (hid : b.assignment.sensorIdFor d.1.detector = .ok id) (hwide : fitsColumn id = false) :
    b.build n messages = .error (.number .outOfRange) := by
  obtain ⟨routes, encoded, hroutes, hencoded, hencodes, -⟩ := exists_encoded hplaces hencodable
  obtain ⟨e, he, hde⟩ := exists_of_mem_right hencodes.flip hd
  have hsame : e.row.sensorId = id := Except.ok.inj (hde.sensor.symm.trans hid)
  have hunfit : (encoded.any fun e => !e.row.fits) = true :=
    List.any_eq_true.mpr ⟨e, he, by simp [Row.fits, hsame, hwide]⟩
  rw [build, bind_of_ok hroutes, bind_of_ok hencoded]
  exact if_pos hunfit

end Builder

/-- Hits that fit, of detectors that are assigned, make a record unless a sensor ID is too wide for
its column. Only a table gives such an ID: the others are places among the detectors. -/
theorem record_unless_id_too_wide {request : Assignment.Request} {b : Builder}
    {messages : List (Message Float)} (hresolve : request.resolve = .ok b.assignment)
    (hknown : ∀ m ∈ messages, m.detector ∈ request.detectors)
    (hhits : ∀ d ∈ deliveries messages, d.2.Fitting) (n : Int) :
    ((∃ r, b.build n messages = .ok r) ↔ ∀ d ∈ deliveries messages, ∀ id,
      b.assignment.sensorIdFor d.1.detector = .ok id → fitsColumn id = true) ∧
    (∀ f, b.build n messages = .error f → f = .number .outOfRange) ∧
    (∀ d id, b.assignment.sensorIdFor d = .ok id →
      request.Gives d id ∨ ∃ index < request.detectors.length, id = (index : Nat)) ∧
    ∀ r, b.build n messages = .ok r → CountsFit request.detectors messages →
      ∀ m ∈ r.wholes, fitsColumn m = true := by
  have hplaces : ∀ m ∈ messages, b.assignment.Places m.detector := fun m hm =>
    Assignment.Request.resolve_places hresolve _ (hknown m hm)
  have hencodable : ∀ d ∈ deliveries messages, d.2.Encodable b.pixelType := fun d hd =>
    (hhits d hd).encodable b.pixelType
  have hmade (hids : ∀ d ∈ deliveries messages, ∀ id,
      b.assignment.sensorIdFor d.1.detector = .ok id → fitsColumn id = true) :
      ∃ r, b.build n messages = .ok r :=
    Builder.build_fits n hplaces ⟨hids, hencodable, fun _ d hd => (hhits d hd).traceable⟩
  have hwide {d : Message Float × Hit Float} (hd : d ∈ deliveries messages) {id : Int}
      (hid : b.assignment.sensorIdFor d.1.detector = .ok id) (hw : ¬ fitsColumn id = true) :
      b.build n messages = .error (.number .outOfRange) :=
    Builder.build_of_wide_id hplaces hencodable hd hid (Bool.eq_false_iff.mpr hw)
  refine ⟨⟨?_, hmade⟩, ?_, ?_, ?_⟩
  · rintro ⟨r, hr⟩ d hd id hid
    by_contra hw
    rw [hwide hd hid hw] at hr
    contradiction
  · intro f hf
    by_cases hids : ∀ d ∈ deliveries messages, ∀ id,
        b.assignment.sensorIdFor d.1.detector = .ok id → fitsColumn id = true
    · obtain ⟨r, hr⟩ := hmade hids
      rw [hr] at hf
      contradiction
    · push Not at hids
      obtain ⟨d, hd, id, hid, hw⟩ := hids
      rw [hwide hd hid hw] at hf
      exact (Except.error.inj hf).symm
  · exact fun d id => Assignment.Request.resolve_ids hresolve
  · intro r hr hcounts
    exact Builder.wholes_fit hr (Assignment.Request.resolve_names hresolve) hcounts

def farNumber : Assignment.Request where
  detectors := ["near", "far"]
  rows := some (.list [Value.texts ["near", "hits", "2147483648"], Value.texts ["far", "hits"]])

def farBuilder : Builder where
  assignment := {
    collections := [("near", "hits"), ("far", "hits")]
    sensorIds := [("near", 2147483648), ("far", 1)]
    names := ["hits"]
    source := .long }
  truth := true

def trackedHit (detector : String) : Hit Float :=
  ⟨detector, .whole 1, .whole 1, .real 1.0, .real 0.0, [particleAt 6]⟩

theorem trackedHit_fitting (detector : String) : (trackedHit detector).Fitting := by
  refine ⟨⟨1, rfl, rfl⟩, ⟨1, rfl, rfl⟩, ⟨1.0, rfl⟩, ⟨0.0, rfl⟩, ?_⟩
  intro p hp
  obtain rfl := List.mem_singleton.mp hp
  exact ⟨rfl, rfl, ⟨0.0, 0.0, 0.0⟩, ⟨0.0, 0.0, 1.0⟩, rfl, rfl⟩

theorem trackedHit_delivered (detector : String) :
    ∀ d ∈ deliveries [⟨detector, [trackedHit detector]⟩], d.2.Fitting := by
  intro d hd
  obtain rfl := List.mem_singleton.mp hd
  exact trackedHit_fitting detector

theorem record_unless_id_too_wide_given :
    farNumber.resolve = .ok farBuilder.assignment ∧ farNumber.Gives "near" 2147483648 ∧
      (∃ r, farBuilder.build 1 [⟨"far", [trackedHit "far"]⟩] = .ok r ∧
        ∀ m ∈ r.wholes, fitsColumn m = true) ∧
      ¬ ∃ r, farBuilder.build 1 [⟨"near", [trackedHit "near"]⟩] = .ok r := by
  have hresolve : farNumber.resolve = .ok farBuilder.assignment := rfl
  have far := record_unless_id_too_wide hresolve (by decide) (trackedHit_delivered "far") 1
  have near := record_unless_id_too_wide hresolve (by decide) (trackedHit_delivered "near") 1
  have hnarrow : ∀ d ∈ deliveries [⟨"far", [trackedHit "far"]⟩], ∀ id,
      farBuilder.assignment.sensorIdFor d.1.detector = .ok id → fitsColumn id = true := by
    intro d hd id hid
    obtain rfl := List.mem_singleton.mp hd
    obtain rfl : 1 = id := Except.ok.inj hid
    rfl
  obtain ⟨r, hr⟩ := far.1.mpr hnarrow
  refine ⟨hresolve, ?_, ⟨r, hr, far.2.2.2 r hr ⟨rfl, rfl, rfl⟩⟩, ?_⟩
  · rcases near.2.2.1 "near" 2147483648 rfl with hgives | ⟨index, hlt, hindex⟩
    · exact hgives
    · have hfew : index < 2 := hlt
      omega
  · intro hmade
    have hfits : fitsColumn 2147483648 = true := near.1.mp hmade _ List.mem_cons_self _ rfl
    revert hfits
    decide

/-- A table is accepted, and the hits of one of its detectors can still not be written. -/
theorem accepted_id_is_not_written :
    farNumber.resolve = .ok farBuilder.assignment ∧ "near" ∈ farNumber.detectors ∧
      (trackedHit "near").Fitting ∧
      ∀ r, farBuilder.build 1 [⟨"near", [trackedHit "near"]⟩] ≠ .ok r := by
  refine ⟨rfl, by decide, trackedHit_fitting "near", ?_⟩
  have hbuild : farBuilder.build 1 [⟨"near", [trackedHit "near"]⟩] =
      .error (.number .outOfRange) := rfl
  simp [hbuild]

end PixelTelescope.Event
