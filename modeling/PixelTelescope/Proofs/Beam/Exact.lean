import PixelTelescope.Proofs.Beam.Drawn
import PixelTelescope.Proofs.Event.Grid
import PixelTelescope.Proofs.Event.Routed

namespace PixelTelescope

/-- Pairs match where both of their parts do. -/
theorem forall₂_product {β γ β' γ' : Type} {R : β → γ → Prop} {S : β' → γ' → Prop} {xs : List β}
    {ys : List γ} {xs' : List β'} {ys' : List γ'} (h : List.Forall₂ R xs ys)
    (h' : List.Forall₂ S xs' ys') :
    List.Forall₂ (fun p q => R p.1 q.1 ∧ S p.2 q.2) (xs ×ˢ xs') (ys ×ˢ ys') := by
  refine List.rel_flatMap h fun x y hxy => ?_
  rw [List.forall₂_map_left_iff, List.forall₂_map_right_iff]
  exact h'.imp fun x' y' hxy' => ⟨hxy, hxy'⟩

namespace Assignment

def idsOf (a : Assignment) (detectors : List String) : List Int :=
  detectors.filterMap fun d => Keyed.get? d a.sensorIds

def sendersTo (a : Assignment) (collection : String) (detectors : List String) : List String :=
  detectors.filter fun d => Keyed.get? d a.collections = some collection

variable {a : Assignment} {detectors : List String}

theorem forall₂_idsOf (h : ∀ d ∈ detectors, a.Places d) :
    List.Forall₂ (fun d id => a.sensorIdFor d = .ok id) detectors (a.idsOf detectors) := by
  induction detectors with
  | nil => exact .nil
  | cons d rest ih =>
    obtain ⟨id, hid⟩ := (h d List.mem_cons_self).sensor
    have hcons : a.idsOf (d :: rest) = id :: a.idsOf rest :=
      List.filterMap_cons_some (sensorIdFor_ok.mp hid)
    rw [hcons]
    exact .cons hid (ih fun e he => h e (List.mem_cons_of_mem _ he))

theorem length_idsOf (h : ∀ d ∈ detectors, a.Places d) :
    (a.idsOf detectors).length = detectors.length := (forall₂_idsOf h).length_eq.symm

theorem nodup_idsOf (hd : detectors.Nodup) (h : ∀ d ∈ detectors, a.Places d)
    (hn : a.Numbers detectors) : (a.idsOf detectors).Nodup := by
  refine (List.rel_nodup ⟨?_, ?_⟩ (forall₂_idsOf h)).mp hd
  · intro d d' id hid hid'
    exact hn.apart d d' id hid hid'
  · intro d id id' hid hid'
    exact Except.ok.inj (hid.symm.trans hid')

end Assignment

namespace Beam

open PixelTelescope.Geometry (Detector Registry)

variable {σ : Type} {b : Event.Builder} {tracks : List (Track ℝ)} {detectors : List (Detector ℝ)}
  {messages : List (Event.Message ℝ)}

/-- What is delivered: one hit for every detector and track. -/
theorem deliveries_crosses (h : List.Forall₂ (Crosses tracks) detectors messages) :
    List.Forall₂ (fun q d => d.1.detector = q.1.name ∧ Leaves q.1 q.2 d.2) (detectors ×ˢ tracks)
      (Event.deliveries messages) := by
  refine List.rel_flatMap h fun d m hcrosses => ?_
  rw [List.forall₂_map_left_iff, List.forall₂_map_right_iff]
  exact hcrosses.hits.imp fun t hit hleaves => ⟨hcrosses.detector, hleaves⟩

theorem leaves_of_delivery (h : List.Forall₂ (Crosses tracks) detectors messages)
    {d : Event.Message ℝ × Event.Hit ℝ} (hd : d ∈ Event.deliveries messages) :
    ∃ q ∈ detectors ×ˢ tracks, Leaves q.1 q.2 d.2 := by
  obtain ⟨q, hq, -, hleaves⟩ := exists_of_mem_right (deliveries_crosses h) hd
  exact ⟨q, hq, hleaves⟩

theorem places_of_crosses (h : List.Forall₂ (Crosses tracks) detectors messages)
    (hplaces : ∀ d ∈ detectors.map (·.name), b.assignment.Places d) :
    ∀ m ∈ messages, b.assignment.Places m.detector := by
  intro m hm
  obtain ⟨d, hd, hcrosses⟩ := exists_of_mem_right h hm
  exact hcrosses.detector ▸ hplaces d.name (List.mem_map_of_mem hd)

theorem sendersTo_names (a : Assignment) (name : String) (detectors : List (Detector ℝ)) :
    a.sendersTo name (detectors.map (·.name)) =
      (detectors.filter fun d => Keyed.get? d.name a.collections = some name).map (·.name) := by
  rw [Assignment.sendersTo, List.filter_map]
  rfl

/-- The messages to a collection are those of its senders. -/
theorem crosses_sentTo (h : List.Forall₂ (Crosses tracks) detectors messages) (name : String) :
    List.Forall₂ (Crosses tracks)
      (detectors.filter fun d => Keyed.get? d.name b.assignment.collections = some name)
      (b.sentTo name messages) := by
  refine List.rel_filter (fun d m hcrosses => ?_) h
  simp only [hcrosses.detector]

/-- Everything that a crossing delivers can be stored. -/
theorem fits_of_crosses (hd : ∀ d ∈ detectors, Crossable d)
    (h : List.Forall₂ (Crosses tracks) detectors messages)
    (hids : ∀ pair ∈ b.assignment.sensorIds, Event.fitsColumn pair.2 = true)
    (htracks : ∀ t ∈ tracks, t.id < 2 ^ 31) : b.Fits messages := by
  refine ⟨?_, ?_, ?_⟩
  · intro d _ id hid
    exact hids _ (Keyed.mem_of_get? (Assignment.sensorIdFor_ok.mp hid))
  · intro delivery hdelivery
    obtain ⟨⟨d, t⟩, hq, hleaves⟩ := leaves_of_delivery h hdelivery
    obtain ⟨columns, rows, x, y, hpixels, hx, hy, hxinside, hyinside⟩ := hleaves.pixel
    obtain ⟨signal, hsignal⟩ := hleaves.signal
    have hpixels : d.model.pixels = [columns, rows] := hpixels
    have hcrossable := hd d (List.mem_product.mp hq).1
    have hcolumns := hcrossable.pixels columns (by simp [hpixels])
    have hrows := hcrossable.pixels rows (by simp [hpixels])
    refine ⟨⟨x, hx ▸ rfl, ?_⟩, ⟨y, hy ▸ rfl, ?_⟩, ⟨signal, hsignal ▸ rfl⟩,
      fun _ => ⟨t.time, hleaves.time ▸ rfl⟩⟩
    · simp only [Event.fitsColumn, Bounds.fits32, Bool.and_eq_true, decide_eq_true_eq]
      omega
    · simp only [Event.fitsColumn, Bounds.fits32, Bool.and_eq_true, decide_eq_true_eq]
      omega
  · intro _ delivery hdelivery
    obtain ⟨⟨d, t⟩, hq, hleaves⟩ := leaves_of_delivery h hdelivery
    obtain ⟨columns, rows, x, y, -, hx, hy, -, -⟩ := hleaves.pixel
    obtain ⟨p, v, w, hparticles, htrack, hpdg, hentry, hexit⟩ := hleaves.particle
    have ht := htracks t (List.mem_product.mp hq).2
    refine ⟨fun _ => ⟨x, hx ▸ rfl⟩, fun _ => ⟨y, hy ▸ rfl⟩, ?_⟩
    intro particle hparticle
    obtain rfl := List.mem_singleton.mp (hparticles ▸ hparticle)
    refine Event.Particle.stored_of_points ?_ ?_ hentry hexit
    · rw [htrack]
      simp only [Event.fitsColumn, Bounds.fits32, Bool.and_eq_true, decide_eq_true_eq]
      omega
    · rw [hpdg]
      rfl

/-- The matches of a crossing stand on a grid of sensors and tracks. -/
theorem onGrid_of_crosses (h : List.Forall₂ (Crosses tracks) detectors messages)
    (hplaces : ∀ d ∈ detectors.map (·.name), b.assignment.Places d)
    (hdistinct : (b.assignment.idsOf (detectors.map (·.name))).Nodup)
    (htracks : (tracks.map (·.id)).Pairwise (· < ·)) {ms : List (Event.Match ℝ)}
    (hms : List.Forall₂ (fun d m => b.assignment.sensorIdFor d.1.detector = .ok m.sensorId ∧
      d.2.particles = m.particles) (Event.deliveries messages) ms) :
    Event.OnGrid ms (b.assignment.idsOf (detectors.map (·.name)))
      (tracks.map fun t => (t.id : Int)) 11 := by
  have hcrossed := forall₂_comp (deliveries_crosses h) hms
  have hids : List.Forall₂ (fun id d => b.assignment.sensorIdFor d.name = .ok id)
      (b.assignment.idsOf (detectors.map (·.name))) detectors :=
    (List.forall₂_map_left_iff.mp (Assignment.forall₂_idsOf hplaces)).flip
  have hown : List.Forall₂ (fun (i : Int) (t : Track ℝ) => i = t.id)
      (tracks.map fun t => (t.id : Int)) tracks := by
    rw [List.forall₂_map_left_iff, List.forall₂_same]
    exact fun _ _ => rfl
  have hkeys : List.Forall₂ (fun key m => id key = m.key)
      (b.assignment.idsOf (detectors.map (·.name)) ×ˢ tracks.map fun t => (t.id : Int)) ms := by
    refine (forall₂_comp (forall₂_product hids hown) hcrossed).imp ?_
    rintro ⟨sensor, track⟩ m ⟨⟨d, t⟩, ⟨hsensor, htrack⟩, delivery, ⟨hdetector, hleaves⟩, hm, hp⟩
    obtain ⟨p, v, w, hparticles, hid, -⟩ := hleaves.particle
    rw [hdetector, hsensor] at hm
    obtain rfl : p = m.first := (List.cons.inj (hparticles.symm.trans hp)).1
    exact Prod.ext (Except.ok.inj hm) (htrack.trans hid.symm)
  have hparticle : ∀ m ∈ ms, ∃ p, m.particles = [p] ∧ p.pdg = 11 := by
    intro m hm
    obtain ⟨q, -, d, ⟨-, hleaves⟩, -, hparticles⟩ := exists_of_mem_right hcrossed hm
    obtain ⟨p, v, w, hp, -, hpdg, -⟩ := hleaves.particle
    exact ⟨p, hparticles ▸ hp, hpdg⟩
  refine ⟨?_, ?_, ?_, hdistinct, ?_⟩
  · rw [← map_eq_of_forall₂ hkeys fun _ _ h => h, List.map_id]
  · intro m hm
    obtain ⟨p, hp, -⟩ := hparticle m hm
    exact (List.cons.inj hp).2
  · intro m hm
    obtain ⟨p, hp, hpdg⟩ := hparticle m hm
    rw [(List.cons.inj hp).1, hpdg]
  · rw [List.pairwise_map] at htracks ⊢
    exact htracks.imp Int.ofNat_lt.mpr

structure Inside (b : Event.Builder) (d : Detector ℝ) (row : Event.Row ℝ) : Prop where
  sensor : b.assignment.sensorIdFor d.name = .ok row.sensorId
  pixel : ∃ columns rows, d.model.pixels = [columns, rows] ∧ (0 ≤ row.x ∧ row.x < columns) ∧
    0 ≤ row.y ∧ row.y < rows

/-- What the record of an event holds of the tracks that were drawn for it. -/
structure Exact (b : Event.Builder) (detectors : List (Detector ℝ)) (firstId n : Nat)
    (record : Event.Record ℝ) (t : Event.Truth ℝ) : Prop where
  /-- The tracks are numbered on, and each has one hit in every detector. -/
  tracks : t.tracks = (List.range' firstId n).map fun (i : Nat) =>
    ⟨i, 11, detectors.length, detectors.length⟩
  /-- Every sensor has a cluster of every track. -/
  clusters : t.clusters.map (fun c => (c.sensorId, c.track)) =
    b.assignment.idsOf (detectors.map (·.name)) ×ˢ
      (List.range' firstId n).map fun (i : Nat) => (i : Int)
  clusterCount : t.clusters.length = n * detectors.length
  sizes : ∀ c ∈ t.clusters, c.size = 1
  /-- A collection holds a hit of every track from each of its detectors. -/
  sensors : ∀ c ∈ record.collections, c.rows.map (·.sensorId) =
    (b.assignment.idsOf (b.assignment.sendersTo c.name (detectors.map (·.name)))).flatMap
      (List.replicate n)
  rowCount : ∀ c ∈ record.collections,
    c.rows.length = n * (b.assignment.sendersTo c.name (detectors.map (·.name))).length
  inside : ∀ row ∈ record.rows, ∃ d ∈ detectors, Inside b d row

/-- The rows of a collection: one for every one of its detectors and every track. -/
theorem rows_crosses (h : List.Forall₂ (Crosses tracks) detectors messages) {number : Int}
    {record : Event.Record ℝ} (hd : b.assignment.names.Nodup)
    (hbuild : b.build number messages = .ok record) {c : Event.Collection ℝ}
    (hc : c ∈ record.collections) :
    List.Forall₂ (fun q row => Inside b q.1 row)
      ((detectors.filter fun d => Keyed.get? d.name b.assignment.collections = some c.name) ×ˢ
        tracks) c.rows := by
  obtain ⟨-, hrows⟩ := Event.Builder.rows_sentTo hd hbuild hc
  refine (forall₂_comp (deliveries_crosses (crosses_sentTo h c.name)) hrows).imp ?_
  rintro ⟨d, t⟩ row ⟨delivery, ⟨hdetector, hleaves⟩, hsensor, hstores⟩
  obtain ⟨columns, rows, x, y, hpixels, hx, hy, hxinside, hyinside⟩ := hleaves.pixel
  have hcolumn := hstores.x
  have hrow := hstores.y
  rw [hx] at hcolumn
  rw [hy] at hrow
  obtain rfl := Except.ok.inj hcolumn
  obtain rfl := Except.ok.inj hrow
  exact ⟨hdetector ▸ hsensor, columns, rows, hpixels, hxinside, hyinside⟩

theorem map_fst_product {β γ : Type} (xs : List β) (ys : List γ) :
    (xs ×ˢ ys).map Prod.fst = xs.flatMap (List.replicate ys.length) := by
  induction xs with
  | nil => rfl
  | cons x rest ih =>
    rw [List.product_cons, List.map_append, ih, List.flatMap_cons, List.map_map]
    congr 1
    exact List.map_const' ..

/-- Every detector comes in turn, with as many rows as there are tracks. -/
theorem sensors_of_rows (hplaces : ∀ d ∈ detectors.map (·.name), b.assignment.Places d)
    {rows : List (Event.Row ℝ)}
    (h : List.Forall₂ (fun q row => Inside b q.1 row) (detectors ×ˢ tracks) rows) :
    rows.map (·.sensorId) =
      (b.assignment.idsOf (detectors.map (·.name))).flatMap (List.replicate tracks.length) := by
  have hids := (List.forall₂_map_left_iff.mp (Assignment.forall₂_idsOf hplaces)).flip
  have hsame : List.Forall₂ (fun t t' => t = t') tracks tracks := List.forall₂_refl tracks
  have hsensors := forall₂_comp (forall₂_product hids hsame) h
  rw [← map_fst_product]
  refine (map_eq_of_forall₂ hsensors ?_).symm
  rintro ⟨id, t⟩ row ⟨⟨d, t'⟩, ⟨hid, -⟩, hinside⟩
  exact Except.ok.inj (hid.symm.trans hinside.sensor)

/-- An event that has crossed all detectors has a record, which is exact. -/
theorem exact_of_crosses (h : List.Forall₂ (Crosses tracks) detectors messages)
    (hne : detectors ≠ []) (hcrossable : ∀ d ∈ detectors, Crossable d)
    (hnames : b.assignment.names.Nodup)
    (hplaces : ∀ d ∈ detectors.map (·.name), b.assignment.Places d)
    (hdistinct : (b.assignment.idsOf (detectors.map (·.name))).Nodup)
    (hids : ∀ pair ∈ b.assignment.sensorIds, Event.fitsColumn pair.2 = true)
    (ht : b.truth = true) {firstId n : Nat} (htracks : tracks.map (·.id) = List.range' firstId n)
    (hfit : firstId + n ≤ 2 ^ 31) (number : Int) :
    ∃ record t, b.build number messages = .ok record ∧ record.truth = some t ∧
      Exact b detectors firstId n record t := by
  have hsmall : ∀ t ∈ tracks, t.id < 2 ^ 31 := by
    intro t hmem
    have hid : t.id ∈ List.range' firstId n := htracks ▸ List.mem_map_of_mem hmem
    have := List.mem_range'_1.mp hid
    omega
  have hcast : tracks.map (fun t => (t.id : Int)) =
      (List.range' firstId n).map fun (i : Nat) => (i : Int) := by
    rw [← htracks, List.map_map]
    rfl
  have hlength : tracks.length = n := by
    rw [← List.length_map (f := (·.id)), htracks, List.length_range']
  have hparticles : ∀ d ∈ Event.deliveries messages, d.2.particles ≠ [] := by
    intro d hd
    obtain ⟨q, -, hleaves⟩ := leaves_of_delivery h hd
    obtain ⟨p, v, w, hp, -⟩ := hleaves.particle
    simp [hp]
  have hidsLength : (b.assignment.idsOf (detectors.map (·.name))).length = detectors.length := by
    rw [Assignment.length_idsOf hplaces, List.length_map]
  obtain ⟨record, hbuild⟩ := Event.Builder.build_fits number (places_of_crosses h hplaces)
    (fits_of_crosses hcrossable h hids hsmall)
  obtain ⟨t, ms, htruth, hclusters, htable, hms⟩ :=
    Event.matches_of_build ht hbuild hparticles
  have hgrid := onGrid_of_crosses h hplaces hdistinct (htracks ▸ List.pairwise_lt_range') hms
  rw [hcast] at hgrid
  have hsome : b.assignment.idsOf (detectors.map (·.name)) ≠ [] := by
    rw [← List.length_pos_iff_ne_nil, hidsLength]
    exact List.length_pos_iff_ne_nil.mpr hne
  have hkeys : t.clusters.map (fun c => (c.sensorId, c.track)) =
      b.assignment.idsOf (detectors.map (·.name)) ×ˢ
        (List.range' firstId n).map fun (i : Nat) => (i : Int) := by
    rw [hclusters, Event.clusterTable_keys, hgrid.clusterKeys_eq]
  have hrows := fun {c} (hc : c ∈ record.collections) => rows_crosses h hnames hbuild hc
  refine ⟨record, t, hbuild, htruth, ?_, hkeys, ?_, ?_, ?_, ?_, ?_⟩
  · rw [htable, hgrid.trackTable_eq hsome, List.map_map, hidsLength]
    rfl
  · rw [← List.length_map (f := fun c => (c.sensorId, c.track)), hkeys, List.length_product,
      List.length_map, List.length_range', hidsLength, Nat.mul_comm]
  · rw [hclusters]
    exact hgrid.size_eq_one
  · intro c hc
    rw [sendersTo_names, ← hlength]
    refine sensors_of_rows (fun d hd => hplaces d ?_) (hrows hc)
    exact (List.filter_sublist.map _).subset hd
  · intro c hc
    rw [sendersTo_names, List.length_map, ← (hrows hc).length_eq, List.length_product, hlength,
      Nat.mul_comm]
  · intro row hrow
    obtain ⟨c, hc, hrow⟩ := List.mem_flatMap.mp hrow
    obtain ⟨⟨d, t⟩, hq, hinside⟩ := exists_of_mem_right (hrows hc) hrow
    exact ⟨d, (List.mem_filter.mp (List.mem_product.mp hq).1).1, hinside⟩

/-- Events that are made up hold exactly the truth that they are made up with: whatever is drawn,
every event has a record, its tracks are numbered on from those of the events before it, and each of
them has left one hit in every detector. -/
theorem synthetic_truth_is_exact {detectors : List (Detector ℝ)}
    {field : Geometry.MagneticField ℝ} {r : Registry ℝ}
    (hr : Registry.ofDetectors detectors field = .ok r) (hne : detectors ≠ [])
    (hcrossable : ∀ d ∈ detectors, Crossable d) {request : Assignment.Request}
    {b : Event.Builder} (hdetectors : request.detectors = r.names)
    (hresolve : request.resolve = .ok b.assignment)
    (hids : ∀ pair ∈ b.assignment.sensorIds, Event.fitsColumn pair.2 = true)
    (ht : b.truth = true) {g : Generator σ ℝ} {s : Settings ℝ} (hg : g.Steady s.timeSpread)
    (hmean : 0 ≤ s.meanTracks) (state : σ) :
    ∃ drawn, Drawn g s r s.first 0 state drawn ∧
      events g s r state = { events := drawn.map (·.2) } ∧
      drawn.map (·.2.1) = (List.range s.events.toNat).map (fun (i : Nat) => s.first + i) ∧
      ∀ before e after, drawn = before ++ e :: after →
        (before.map (·.1)).sum + e.1 ≤ 2 ^ 31 →
        ∃ record t, b.build e.2.1 e.2.2 = .ok record ∧ record.truth = some t ∧
          Exact b detectors (before.map (·.1)).sum e.1 record t := by
  obtain ⟨rfl, hnodup⟩ := Registry.ofDetectors_eq_ok.mp hr
  obtain ⟨drawn, hdrawn, hlength, hevents⟩ :=
    eventsFrom_drawn (r := ⟨detectors, field⟩) hg hmean hcrossable s.events.toNat s.first 0 state
  refine ⟨drawn, hdrawn, hevents, hlength ▸ hdrawn.numbers, ?_⟩
  rintro before e after rfl hfit
  obtain ⟨own, counted, next, hcount, hevent⟩ := hdrawn.at
  rw [Nat.zero_add] at hevent
  obtain ⟨n, counted', messages, next', tracks, hcount', hevent', htracks, hcrosses⟩ :=
    drawEvent_crosses (r := ⟨detectors, field⟩) hg hmean hcrossable (before.map (·.1)).sum own
  rw [hevent] at hevent'
  have hsame := congrArg Prod.fst (Except.ok.inj hevent')
  rw [← (Prod.mk.inj hsame).1] at hcrosses
  rw [← (Prod.mk.inj hsame).2] at htracks
  have hplaces := Assignment.Request.resolve_places hresolve
  rw [hdetectors] at hplaces
  have hnumbers : b.assignment.Numbers (detectors.map (·.name)) := by
    have h := Assignment.Request.resolve_numbers (hdetectors ▸ hnodup) hresolve
    rwa [hdetectors] at h
  exact exact_of_crosses hcrosses hne hcrossable
    (Assignment.Request.resolve_wellNamed hresolve).distinct hplaces
    (Assignment.nodup_idsOf hnodup hplaces hnumbers) hids ht htracks hfit e.2.1

noncomputable def smallSensor (name : String) : Detector ℝ where
  name := name
  model := ⟨"sensor", [4, 2], [1, 1], 1, 0, 0⟩
  position := .vector [0, 0, 0]
  orientation := (Geometry.Mat3.identity : Geometry.Mat3 ℝ).toTensor

theorem smallSensor_crossable (name : String) : Crossable (smallSensor name) := by
  constructor
  · exact ⟨⟨0, 0, 0, rfl⟩, ⟨_, rfl⟩, ⟨4, 2, rfl, ⟨_, rfl⟩, ⟨_, rfl⟩⟩, ⟨1, 1, rfl⟩⟩
  · simp [smallSensor]

def evenBeam : Generator Unit ℝ where
  count _ := pure 2
  uniform low _ := pure low
  normal mean _ := pure mean
  gamma shape _ := pure shape

theorem evenBeam_steady (timeSpread : ℝ) : evenBeam.Steady timeSpread where
  count _ _ := .pure trivial
  place := .pure trivial
  time := .pure trivial
  shift := .pure trivial
  signal := .pure trivial

def smallBuilder : Event.Builder where
  assignment := {
    collections := [("front", "zsdata_m26"), ("back", "zsdata_m26")]
    sensorIds := [("front", 0), ("back", 1)]
    names := ["zsdata_m26"]
    source := .default }
  truth := true

theorem synthetic_truth_is_exact_even :
    ∃ first second record t,
      (events evenBeam { events := 2 } ⟨[smallSensor "front", smallSensor "back"], .absent⟩
        ()).events = [(1, first), (2, second)] ∧
      smallBuilder.build 2 second = .ok record ∧ record.truth = some t ∧
      t.tracks = [⟨2, 11, 2, 2⟩, ⟨3, 11, 2, 2⟩] ∧
      t.clusters.map (fun c => (c.sensorId, c.track)) = [(0, 2), (0, 3), (1, 2), (1, 3)] := by
  have hcrossable : ∀ d ∈ [smallSensor "front", smallSensor "back"], Crossable d := by
    simp [smallSensor_crossable]
  have hids : ∀ pair ∈ smallBuilder.assignment.sensorIds, Event.fitsColumn pair.2 = true := by
    decide
  have hregistry : Registry.ofDetectors [smallSensor "front", smallSensor "back"] .absent =
      .ok ⟨[smallSensor "front", smallSensor "back"], .absent⟩ := rfl
  have hresolve : ({ detectors := ["front", "back"] } : Assignment.Request).resolve =
      .ok smallBuilder.assignment := rfl
  have hmean : (0 : ℝ) ≤ ({ events := 2 } : Settings ℝ).meanTracks := by
    show (0 : ℝ) ≤ 2.0
    norm_num
  obtain ⟨drawn, hdrawn, hevents, hnumbers, hexact⟩ := synthetic_truth_is_exact hregistry
    (List.cons_ne_nil _ _) hcrossable rfl hresolve hids rfl (evenBeam_steady _) hmean ()
  have hcount : ∀ (n : Nat) (next : Unit), evenBeam.count 2.0 () = .ok (n, next) → n = 2 := by
    intro n next h
    exact (Prod.mk.inj (Except.ok.inj h)).1.symm
  have hlength : drawn.length = 2 := by simpa using congrArg List.length hnumbers
  obtain ⟨⟨n₁, k₁, first⟩, ⟨n₂, k₂, second⟩, rfl⟩ := List.length_eq_two.mp hlength
  cases hdrawn with
  | event count₁ drawn₁ later =>
    cases later with
    | event count₂ drawn₂ later =>
      obtain rfl := hcount _ _ count₁
      obtain rfl := hcount _ _ count₂
      obtain ⟨record, t, hbuild, htruth, hexact⟩ :=
        hexact [_] _ [] rfl (show 2 + 2 ≤ 2 ^ 31 by norm_num)
      refine ⟨first, second, record, t, ?_, hbuild, htruth, hexact.tracks, hexact.clusters⟩
      rw [hevents]
      rfl

end Beam

end PixelTelescope
