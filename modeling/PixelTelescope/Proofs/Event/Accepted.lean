import PixelTelescope.Geometry.Rotation
import PixelTelescope.Proofs.Assignment.Coverage
import PixelTelescope.Proofs.Event.Placed

namespace PixelTelescope.Event

variable {α : Type} [Scalar α]

structure Pointed (point : Tensor α × Tensor α × Tensor α) : Prop where
  x : ∃ x, point.1.single? = .ok x
  y : ∃ y, point.2.1.single? = .ok y
  z : ∃ z, point.2.2.single? = .ok z

structure Particle.Stored (p : Particle α) : Prop where
  track : fitsColumn p.track = true
  pdg : fitsColumn p.pdg = true
  point : ∃ point, Match.point p = .ok point ∧ Pointed point

/-- A particle from one point to another one has a middle. -/
theorem Particle.stored_of_points {p : Particle α} {v w : Geometry.Vec3 α}
    (htrack : fitsColumn p.track = true) (hpdg : fitsColumn p.pdg = true)
    (hentry : p.entry = v.toTensor) (hexit : p.exit = w.toTensor) : p.Stored := by
  obtain ⟨track, pdg, entry, exit⟩ := p
  subst hentry hexit
  exact ⟨htrack, hpdg, _, rfl, ⟨_, rfl⟩, ⟨_, rfl⟩, ⟨_, rfl⟩⟩

/-- A hit whose numbers fit its columns; a time is asked for where it is stored. -/
structure Hit.Encodable (pixelType : PixelType) (h : Hit α) : Prop where
  column : ∃ n, h.column.toInt = .ok n ∧ fitsColumn n = true
  row : ∃ n, h.row.toInt = .ok n ∧ fitsColumn n = true
  signal : ∃ s, h.signal.toScalar = .ok s
  time : pixelType = .timed → ∃ t, h.time.toScalar = .ok t

structure Hit.Traceable (h : Hit α) : Prop where
  column : h.particles ≠ [] → ∃ x, h.column.amount = .ok x
  row : h.particles ≠ [] → ∃ y, h.row.amount = .ok y
  particles : ∀ p ∈ h.particles, p.Stored

structure Match.Stored (m : Match α) : Prop where
  first : m.first.Stored
  particles : ∀ p point, (p, point) ∈ m.particles.zip m.points → p.Stored ∧ Pointed point

theorem points_stored {ps : List (Particle α)} (h : ∀ p ∈ ps, p.Stored) :
    ∃ points, ps.mapM Match.point = .ok points ∧
      ∀ p point, (p, point) ∈ ps.zip points → p.Stored ∧ Pointed point := by
  obtain ⟨points, hpoints, hall⟩ : ∃ points, ps.mapM Match.point = .ok points ∧
      List.Forall₂ (fun _ point => Pointed point) ps points :=
    exists_mapM_ok fun p hp => (h p hp).point
  refine ⟨points, hpoints, fun p point hmem => ?_⟩
  exact ⟨h p (List.of_mem_zip hmem).1, List.forall₂_zip hall hmem⟩

theorem Match.ofPlaced_traceable {p : Placed α} (h : p.hit.Traceable) :
    ∃ kept, Match.ofPlaced p = .ok kept ∧ ∀ m, kept = some m → m.Stored := by
  cases hp : p.hit.particles with
  | nil => exact ⟨none, by simp only [Match.ofPlaced, hp], by simp⟩
  | cons first others =>
    have hsome : p.hit.particles ≠ [] := by simp [hp]
    obtain ⟨x, hx⟩ := h.column hsome
    obtain ⟨y, hy⟩ := h.row hsome
    obtain ⟨points, hpoints, hstored⟩ := points_stored (hp ▸ h.particles)
    have hfirst := h.particles first (hp ▸ List.mem_cons_self)
    simp only [Match.ofPlaced, hp]
    rw [bind_of_ok hpoints, hx, hy]
    refine ⟨_, rfl, ?_⟩
    intro m hm
    obtain rfl := Option.some.inj hm
    exact ⟨hfirst, hstored⟩

theorem simHitTable_stored {ms : List (Match α)} (h : ∀ m ∈ ms, m.Stored) :
    ∃ hits, simHitTable ms = .ok hits := by
  refine (exists_mapM_ok (R := fun _ _ => True) ?_).imp fun _ h => h.1
  rintro ⟨m, p, px, py, pz⟩ hmem
  obtain ⟨m', hm', hmem⟩ := List.mem_flatMap.mp hmem
  obtain ⟨q, hq, he⟩ := List.mem_map.mp hmem
  obtain ⟨rfl, rfl⟩ := Prod.mk.inj he
  obtain ⟨hp, ⟨x, hx⟩, ⟨y, hy⟩, ⟨z, hz⟩⟩ := (h m' hm').particles p (px, py, pz) hq
  simp only [hp.track, hp.pdg, Bool.and_self, Bool.not_true, Bool.false_eq_true, ↓reduceIte]
  rw [hx, hy, hz]
  exact ⟨_, rfl, trivial⟩

/-- The tables of traceable hits can always be made. -/
theorem Truth.ofPlaced_traceable {placed : List (Placed α)} (h : ∀ p ∈ placed, p.hit.Traceable) :
    ∃ t, Truth.ofPlaced placed = .ok t := by
  obtain ⟨kept, hkept, hstored⟩ := exists_mapM_ok fun p hp => Match.ofPlaced_traceable (h p hp)
  have hms : ∀ m ∈ kept.filterMap id, m.Stored := by
    intro m hm
    obtain ⟨k, hk, rfl⟩ := List.mem_filterMap.mp hm
    obtain ⟨p, -, hp⟩ := exists_of_mem_right hstored hk
    exact hp m rfl
  obtain ⟨hits, hhits⟩ := simHitTable_stored hms
  have hkeys : ((clusterKeys (kept.filterMap id)).any fun key => !fitsColumn key.2) = false := by
    rw [List.any_eq_false]
    intro key hkey
    obtain ⟨m, hm, rfl⟩ := List.mem_map.mp (List.mem_eraseDups.mp hkey)
    simpa [Match.key] using (hms m hm).first.track
  rw [Truth.ofPlaced, bind_of_ok hkept]
  simp only [hkeys, Bool.false_eq_true, ↓reduceIte]
  rw [bind_of_ok hhits]
  exact ⟨_, rfl⟩

omit [Scalar α] in
theorem mem_deliveries {messages : List (Message α)} {m : Message α} {hit : Hit α} :
    (m, hit) ∈ deliveries messages ↔ m ∈ messages ∧ hit ∈ m.hits := by
  simp [deliveries, and_comm]

namespace Builder

variable {b : Builder} {messages : List (Message α)}

omit [Scalar α] in
theorem route_places {m : Message α} (h : b.assignment.Places m.detector) :
    ∃ route, b.route m = .ok route ∧ route.message = m := by
  obtain ⟨name, hlisted, hname⟩ := h.collection
  obtain ⟨index, hindex⟩ := Assignment.collectionIndex_of_mem hlisted
  obtain ⟨id, hid⟩ := h.sensor
  rw [route, bind_of_ok hname, bind_of_ok hindex, bind_of_ok hid]
  exact ⟨_, rfl, rfl⟩

structure Stores (b : Builder) (sensorId : Int) (hit : Hit α) (row : Row α) : Prop where
  sensor : row.sensorId = sensorId
  x : hit.column.toInt = .ok row.x
  y : hit.row.toInt = .ok row.y
  signal : hit.signal.toScalar = .ok row.signal
  simple : b.pixelType = .simple → row.time = none
  timed : b.pixelType = .timed → ∃ t, hit.time.toScalar = .ok t ∧ row.time = some t

theorem encodeHit_eq_ok {sensorId : Int} {hit : Hit α} {row : Row α} :
    b.encodeHit sensorId hit = .ok row ↔ b.Stores sensorId hit row := by
  constructor
  · intro h
    obtain ⟨x, hx, h⟩ := bind_eq_ok.mp h
    obtain ⟨y, hy, h⟩ := bind_eq_ok.mp h
    obtain ⟨signal, hsignal, h⟩ := bind_eq_ok.mp h
    have hx := liftM_eq_ok.mp hx
    have hy := liftM_eq_ok.mp hy
    have hsignal := liftM_eq_ok.mp hsignal
    cases hp : b.pixelType with
    | simple =>
      rw [hp] at h
      obtain rfl := Except.ok.inj h
      exact ⟨rfl, hx, hy, hsignal, fun _ => rfl, fun ht => by simp [hp] at ht⟩
    | timed =>
      rw [hp] at h
      obtain ⟨time, htime, h⟩ := bind_eq_ok.mp h
      obtain rfl := Except.ok.inj h
      exact ⟨rfl, hx, hy, hsignal, fun ht => by simp [hp] at ht,
        fun _ => ⟨time, liftM_eq_ok.mp htime, rfl⟩⟩
  · rintro ⟨rfl, hx, hy, hsignal, hsimple, htimed⟩
    obtain ⟨id, x, y, signal, time⟩ := row
    cases hp : b.pixelType with
    | simple =>
      obtain rfl := hsimple hp
      simp only [encodeHit, hx, hy, hsignal, hp]
      rfl
    | timed =>
      obtain ⟨t, ht, rfl⟩ := htimed hp
      simp only [encodeHit, hx, hy, hsignal, ht, hp]
      rfl

theorem encodeHit_encodable {hit : Hit α} (h : hit.Encodable b.pixelType) (sensorId : Int) :
    ∃ row, b.encodeHit sensorId hit = .ok row ∧ fitsColumn row.x = true ∧
      fitsColumn row.y = true := by
  obtain ⟨x, hx, hxfits⟩ := h.column
  obtain ⟨y, hy, hyfits⟩ := h.row
  obtain ⟨signal, hsignal⟩ := h.signal
  cases hp : b.pixelType with
  | simple =>
    refine ⟨⟨sensorId, x, y, signal, none⟩, encodeHit_eq_ok.mpr ?_, hxfits, hyfits⟩
    exact ⟨rfl, hx, hy, hsignal, fun _ => rfl, fun ht => by simp [hp] at ht⟩
  | timed =>
    obtain ⟨time, htime⟩ := h.time hp
    refine ⟨⟨sensorId, x, y, signal, some time⟩, encodeHit_eq_ok.mpr ?_, hxfits, hyfits⟩
    exact ⟨rfl, hx, hy, hsignal, fun ht => by simp [hp] at ht, fun _ => ⟨time, htime, rfl⟩⟩

/-- Encodable hits are all encoded, and their numbers fit the columns. -/
theorem encodeAll_encodable {routes : List (Route α)}
    (h : ∀ route ∈ routes, ∀ hit ∈ route.message.hits, hit.Encodable b.pixelType) :
    ∃ encoded, b.encodeAll routes = .ok encoded ∧
      ∀ e ∈ encoded, fitsColumn e.row.x = true ∧ fitsColumn e.row.y = true := by
  obtain ⟨encoded, hencoded, hfit⟩ : ∃ encoded, b.encodeAll routes = .ok encoded ∧
      List.Forall₂ (fun _ (e : Encoded α) => fitsColumn e.row.x = true ∧
        fitsColumn e.row.y = true)
      (routes.flatMap fun r => r.message.hits.map (r, ·)) encoded := by
    refine exists_mapM_ok ?_
    rintro ⟨route, hit⟩ hmem
    obtain ⟨route', hroute, hmem⟩ := List.mem_flatMap.mp hmem
    obtain ⟨hit', hhit, he⟩ := List.mem_map.mp hmem
    obtain ⟨rfl, rfl⟩ := Prod.mk.inj he
    obtain ⟨row, hrow, hx, hy⟩ := encodeHit_encodable (h route' hroute hit' hhit) route'.sensorId
    exact ⟨⟨route'.collection, row, hit'⟩, by simp only [encode, bind_of_ok hrow]; rfl, hx, hy⟩
  refine ⟨encoded, hencoded, fun e he => ?_⟩
  obtain ⟨-, -, hfits⟩ := exists_of_mem_right hfit he
  exact hfits

/-- All that is asked of the hits of an event that is to have a record. -/
structure Fits (b : Builder) (messages : List (Message α)) : Prop where
  ids : ∀ d ∈ deliveries messages, ∀ id, b.assignment.sensorIdFor d.1.detector = .ok id →
    fitsColumn id = true
  encodable : ∀ d ∈ deliveries messages, d.2.Encodable b.pixelType
  traceable : b.truth = true → ∀ d ∈ deliveries messages, d.2.Traceable

/-- Encodable hits of detectors that have their places are all encoded. -/
theorem exists_encoded (hplaces : ∀ m ∈ messages, b.assignment.Places m.detector)
    (hencodable : ∀ d ∈ deliveries messages, d.2.Encodable b.pixelType) :
    ∃ routes encoded, messages.mapM b.route = .ok routes ∧ b.encodeAll routes = .ok encoded ∧
      List.Forall₂ b.Encodes (deliveries messages) encoded ∧
      ∀ e ∈ encoded, fitsColumn e.row.x = true ∧ fitsColumn e.row.y = true := by
  obtain ⟨routes, hroutes, hmessages⟩ := exists_mapM_ok fun m hm => route_places (hplaces m hm)
  have hhits : ∀ route ∈ routes, ∀ hit ∈ route.message.hits, hit.Encodable b.pixelType := by
    intro route hroute hit hhit
    obtain ⟨m, hm, hmessage⟩ := exists_of_mem_right hmessages hroute
    exact hencodable (m, hit) (mem_deliveries.mpr ⟨hm, hmessage ▸ hhit⟩)
  obtain ⟨encoded, hencoded, hfit⟩ := encodeAll_encodable hhits
  exact ⟨routes, encoded, hroutes, hencoded, encodes_all hroutes hencoded, hfit⟩

/-- Hits that fit, of detectors that have their places, always make a record. -/
theorem build_fits (number : Int) (hplaces : ∀ m ∈ messages, b.assignment.Places m.detector)
    (h : b.Fits messages) : ∃ r, b.build number messages = .ok r := by
  obtain ⟨routes, encoded, hroutes, hencoded, hencodes, hfit⟩ := exists_encoded hplaces h.encodable
  have hfits : (encoded.any fun e => !e.row.fits) = false := by
    rw [List.any_eq_false]
    intro e he
    obtain ⟨hx, hy⟩ := hfit e he
    obtain ⟨d, hd, hencoded⟩ := exists_of_mem_right hencodes he
    simp [Row.fits, h.ids d hd _ hencoded.sensor, hx, hy]
  have hplaced : b.truth = true → ∀ p ∈ place [] encoded, p.hit.Traceable := by
    intro ht p hp
    obtain ⟨e, he, -, -, -, hhit⟩ := exists_of_mem_right (place_forall₂ [] encoded) hp
    obtain ⟨d, hd, hencoded⟩ := exists_of_mem_right hencodes he
    rw [hhit, hencoded.hit]
    exact h.traceable ht d hd
  rw [build, bind_of_ok hroutes, bind_of_ok hencoded]
  simp only [hfits, Bool.false_eq_true, ↓reduceIte]
  split
  · rename_i ht
    obtain ⟨t, htables⟩ := Truth.ofPlaced_traceable (hplaced ht)
    rw [htables]
    exact ⟨_, rfl⟩
  · exact ⟨_, rfl⟩

end Builder

end PixelTelescope.Event

namespace PixelTelescope

theorem Decimal.ofInt?_of_fits32 {n : Int} (h : Bounds.fits32 n = true) :
    ∃ x, Decimal.ofInt? n = some x := by
  simp only [Bounds.fits32, Bool.and_eq_true, decide_eq_true_eq] at h
  have hsmall : n.natAbs < 2 ^ 32 := by omega
  have hlarge : 2 ^ 32 ≤ Decimal.overflow := by decide +kernel
  exact ⟨_, if_pos (Nat.lt_of_lt_of_le hsmall hlarge)⟩

namespace Event

/-- A hit that can be taken: its numbers fit the columns, and its particles have points. -/
structure Hit.Plain (h : Hit Float) : Prop where
  column : ∃ n, h.column = .whole n ∧ fitsColumn n = true
  row : ∃ n, h.row = .whole n ∧ fitsColumn n = true
  signal : ∃ x, h.signal = .real x
  time : ∃ t, h.time = .real t
  particles : ∀ p ∈ h.particles, fitsColumn p.track = true ∧ fitsColumn p.pdg = true ∧
    p.entry = .zeros [3] ∧ p.exit = .zeros [3]

theorem amount_whole {n : Int} (h : fitsColumn n = true) :
    ∃ x, (Reading.whole n : Reading Float).amount = .ok x := by
  obtain ⟨x, hx⟩ := Decimal.ofInt?_of_fits32 h
  refine ⟨x, ?_⟩
  have hscalar : Scalar.ofInt? n = some x := hx
  simp only [Reading.amount, Scalar.ofInt, hscalar]

structure Hit.Fitting (h : Hit Float) : Prop where
  column : ∃ n, h.column = .whole n ∧ fitsColumn n = true
  row : ∃ n, h.row = .whole n ∧ fitsColumn n = true
  signal : ∃ x, h.signal = .real x
  time : ∃ t, h.time = .real t
  particles : ∀ p ∈ h.particles, fitsColumn p.track = true ∧ fitsColumn p.pdg = true ∧
    ∃ v w : Geometry.Vec3 Float, p.entry = v.toTensor ∧ p.exit = w.toTensor

theorem Hit.Fitting.encodable {h : Hit Float} (hp : h.Fitting) (pixelType : PixelType) :
    h.Encodable pixelType := by
  obtain ⟨x, hx, hxfits⟩ := hp.column
  obtain ⟨y, hy, hyfits⟩ := hp.row
  obtain ⟨signal, hsignal⟩ := hp.signal
  obtain ⟨time, htime⟩ := hp.time
  refine ⟨⟨x, ?_, hxfits⟩, ⟨y, ?_, hyfits⟩, ⟨signal, ?_⟩, fun _ => ⟨time, ?_⟩⟩
  · rw [hx]; rfl
  · rw [hy]; rfl
  · rw [hsignal]; rfl
  · rw [htime]; rfl

theorem Hit.Fitting.traceable {h : Hit Float} (hp : h.Fitting) : h.Traceable := by
  obtain ⟨x, hx, hxfits⟩ := hp.column
  obtain ⟨y, hy, hyfits⟩ := hp.row
  refine ⟨fun _ => hx ▸ amount_whole hxfits, fun _ => hy ▸ amount_whole hyfits, ?_⟩
  intro p hmem
  obtain ⟨htrack, hpdg, v, w, hentry, hexit⟩ := hp.particles p hmem
  exact Particle.stored_of_points htrack hpdg hentry hexit

theorem Hit.Plain.fitting {h : Hit Float} (hp : h.Plain) : h.Fitting := by
  refine ⟨hp.column, hp.row, hp.signal, hp.time, fun p hmem => ?_⟩
  obtain ⟨htrack, hpdg, hentry, hexit⟩ := hp.particles p hmem
  let origin : Geometry.Vec3 Float := ⟨0.0, 0.0, 0.0⟩
  exact ⟨htrack, hpdg, origin, origin, hentry, hexit⟩

theorem Hit.Plain.encodable {h : Hit Float} (hp : h.Plain) (pixelType : PixelType) :
    h.Encodable pixelType := hp.fitting.encodable pixelType

theorem Hit.Plain.traceable {h : Hit Float} (hp : h.Plain) : h.Traceable := hp.fitting.traceable

/-- Plain hits of detectors that have their places always make a record. -/
theorem Builder.build_plain {b : Builder} {messages : List (Message Float)} (number : Int)
    (hplaces : ∀ m ∈ messages, b.assignment.Places m.detector)
    (hids : ∀ m ∈ messages, ∀ id, b.assignment.sensorIdFor m.detector = .ok id →
      fitsColumn id = true)
    (hplain : ∀ d ∈ deliveries messages, d.2.Plain) : ∃ r, b.build number messages = .ok r := by
  refine build_fits number hplaces ⟨?_, ?_, ?_⟩
  · intro d hd
    exact hids d.1 (mem_deliveries.mp hd).1
  · intro d hd
    exact (hplain d hd).encodable b.pixelType
  · intro _ d hd
    exact (hplain d hd).traceable

end Event

end PixelTelescope
