import PixelTelescope.Event.Builder
import PixelTelescope.Proofs.Outcome

namespace PixelTelescope.Event

variable {α : Type} {b : Builder} {n : Int} {messages : List (Message α)} {r : Record α}
  {encoded : List (Encoded α)}

def Record.row? (r : Record α) (collection index : Nat) : Option (Row α) :=
  r.collections[collection]?.bind fun c => c.rows[index]?

def deliveries (messages : List (Message α)) : List (Message α × Hit α) :=
  messages.flatMap fun m => m.hits.map (m, ·)

theorem place_forall₂ (before : List Nat) (encoded : List (Encoded α)) :
    List.Forall₂ (fun e p => p ∈ place before encoded ∧
      p.collection = e.collection ∧ p.row = e.row ∧ p.hit = e.hit)
      encoded (place before encoded) := by
  induction encoded generalizing before with
  | nil => exact .nil
  | cons e rest ih =>
    refine .cons ⟨List.mem_cons_self, rfl, rfl, rfl⟩ ((ih _).imp ?_)
    rintro e p ⟨hp, h⟩
    exact ⟨List.mem_cons_of_mem _ hp, h⟩

/-- The place of a hit is that of its row among the rows of its collection; `done` are the hits that
stand in front. -/
theorem place_row (done encoded : List (Encoded α)) :
    ∀ p ∈ place (done.map (·.collection)).reverse encoded,
      (((done ++ encoded).filter (·.collection = p.collection)).map (·.row))[p.index]? =
        some p.row := by
  induction encoded generalizing done with
  | nil => simp [place]
  | cons e rest ih =>
    intro p hp
    rcases List.mem_cons.mp hp with rfl | hp
    · have hcount : (done.map (·.collection)).reverse.count e.collection =
          (done.filter (·.collection = e.collection)).length := by
        rw [List.count_reverse, List.count_eq_countP, List.countP_map, List.countP_eq_length_filter]
        rfl
      simp [hcount]
    · have hstep := ih (done ++ [e]) p (by simpa using hp)
      rwa [List.append_assoc, List.singleton_append] at hstep

/-- Later hits of a collection have later places. -/
theorem count_le_index {before : List Nat} {encoded : List (Encoded α)} {p : Placed α}
    (h : p ∈ place before encoded) : before.count p.collection ≤ p.index := by
  induction encoded generalizing before with
  | nil => simp [place] at h
  | cons e rest ih =>
    rcases List.mem_cons.mp h with rfl | h
    · exact Nat.le_refl _
    · exact Nat.le_trans List.count_le_count_cons (ih h)

theorem positions_distinct (before : List Nat) (encoded : List (Encoded α)) :
    ((place before encoded).map fun p => (p.collection, p.index)).Nodup := by
  induction encoded generalizing before with
  | nil => simp [place]
  | cons e rest ih =>
    rw [place, List.map_cons, List.nodup_cons]
    refine ⟨fun hmem => ?_, ih _⟩
    obtain ⟨p, hp, he⟩ := List.mem_map.mp hmem
    obtain ⟨hcollection, hindex⟩ := Prod.mk.inj he
    have hle := count_le_index hp
    rw [hcollection, List.count_cons_self, hindex] at hle
    exact Nat.not_succ_le_self _ hle

namespace Builder

theorem names_of_collectionIndex {a : Assignment} {name : String} {index : Nat}
    (h : a.collectionIndex name = .ok index) : a.names[index]? = some name := by
  unfold Assignment.collectionIndex at h
  split at h
  · rename_i i hi
    obtain rfl := Except.ok.inj h
    obtain ⟨hlt, hname, -⟩ := List.findIdx?_eq_some_iff_getElem.mp hi
    rw [List.getElem?_eq_getElem hlt, of_decide_eq_true hname]
  · contradiction

theorem collections_getElem {index : Nat} {name : String}
    (h : b.assignment.names[index]? = some name) (encoded : List (Encoded α)) :
    (b.collections encoded)[index]? = some
      ⟨name, b.pixelType, (encoded.filter (·.collection = index)).map (·.row)⟩ := by
  simp [collections, h]

theorem route_message {m : Message α} {route : Route α} (h : b.route m = .ok route) :
    route.message = m := by
  obtain ⟨name, -, h⟩ := bind_eq_ok.mp h
  obtain ⟨collection, -, h⟩ := bind_eq_ok.mp h
  obtain ⟨sensorId, -, h⟩ := bind_eq_ok.mp h
  exact Except.ok.inj h ▸ rfl

variable [Scalar α]

structure Encodes (b : Builder) (delivery : Message α × Hit α) (e : Encoded α) : Prop where
  hit : e.hit = delivery.2
  collection : ∃ name, b.assignment.collectionFor delivery.1.detector = .ok name ∧
    b.assignment.collectionIndex name = .ok e.collection
  sensor : b.assignment.sensorIdFor delivery.1.detector = .ok e.row.sensorId
  row : b.encodeHit e.row.sensorId delivery.2 = .ok e.row

/-- A hit has its place in the record: its row stands there, in the collection that its detector is
assigned. -/
structure Seats (b : Builder) (r : Record α) (delivery : Message α × Hit α) (p : Placed α) :
    Prop where
  hit : p.hit = delivery.2
  collection : ∃ c, r.collections[p.collection]? = some c ∧
    b.assignment.collectionFor delivery.1.detector = .ok c.name
  sensor : b.assignment.sensorIdFor delivery.1.detector = .ok p.row.sensorId
  encoded : b.encodeHit p.row.sensorId delivery.2 = .ok p.row
  row : r.row? p.collection p.index = some p.row

theorem encodeHit_sensorId {sensorId : Int} {hit : Hit α} {row : Row α}
    (h : b.encodeHit sensorId hit = .ok row) : row.sensorId = sensorId := by
  obtain ⟨x, -, h⟩ := bind_eq_ok.mp h
  obtain ⟨y, -, h⟩ := bind_eq_ok.mp h
  obtain ⟨signal, -, h⟩ := bind_eq_ok.mp h
  cases hp : b.pixelType with
  | simple =>
    rw [hp] at h
    exact Except.ok.inj h ▸ rfl
  | timed =>
    rw [hp] at h
    obtain ⟨time, -, h⟩ := bind_eq_ok.mp h
    exact Except.ok.inj h ▸ rfl

theorem encodes_of_route {m : Message α} {hit : Hit α} {route : Route α} {e : Encoded α}
    (hroute : b.route m = .ok route) (he : b.encode route hit = .ok e) : b.Encodes (m, hit) e := by
  obtain ⟨name, hname, h⟩ := bind_eq_ok.mp hroute
  obtain ⟨collection, hcollection, h⟩ := bind_eq_ok.mp h
  obtain ⟨sensorId, hsensor, h⟩ := bind_eq_ok.mp h
  obtain rfl := Except.ok.inj h
  obtain ⟨row, hrow, he⟩ := bind_eq_ok.mp he
  obtain rfl := Except.ok.inj he
  obtain rfl := encodeHit_sensorId hrow
  exact ⟨rfl, ⟨name, hname, hcollection⟩, hsensor, hrow⟩

/-- Every delivered hit is encoded, in order. -/
theorem encodes_all {routes : List (Route α)} (hroutes : messages.mapM b.route = .ok routes)
    (hencoded : b.encodeAll routes = .ok encoded) :
    List.Forall₂ b.Encodes (deliveries messages) encoded := by
  have hpaired : List.Forall₂ (fun d (s : Route α × Hit α) => b.route d.1 = .ok s.1 ∧ s.2 = d.2)
      (deliveries messages) (routes.flatMap fun r => r.message.hits.map (r, ·)) := by
    refine List.rel_flatMap (mapM_eq_ok.mp hroutes) ?_
    intro m route hroute
    beta_reduce
    rw [route_message hroute, List.forall₂_map_left_iff, List.forall₂_map_right_iff,
      List.forall₂_same]
    exact fun hit _ => ⟨hroute, rfl⟩
  refine (forall₂_comp hpaired (mapM_eq_ok.mp hencoded)).imp ?_
  rintro ⟨m, hit⟩ e ⟨⟨route, _⟩, ⟨hroute, rfl⟩, he⟩
  exact encodes_of_route hroute he

/-- How a builder comes to a record: the messages are routed, the hits encoded, and all rows fit. -/
structure Builds (b : Builder) (n : Int) (messages : List (Message α)) (r : Record α)
    (routes : List (Route α)) (encoded : List (Encoded α)) : Prop where
  routed : messages.mapM b.route = .ok routes
  encodes : b.encodeAll routes = .ok encoded
  fits : ∀ e ∈ encoded, e.row.fits = true
  run : r.run = b.run
  number : r.number = n
  type : r.type = b.eventType
  collections : r.collections = b.collections encoded
  truth : b.truth = true → ∃ t, Truth.ofPlaced (place [] encoded) = .ok t ∧ r.truth = some t
  bare : b.truth = false → r.truth = none

theorem builds_of_build (h : b.build n messages = .ok r) :
    ∃ routes encoded, b.Builds n messages r routes encoded := by
  obtain ⟨routes, hroutes, h⟩ := bind_eq_ok.mp h
  obtain ⟨encoded, hencoded, h⟩ := bind_eq_ok.mp h
  refine ⟨routes, encoded, ?_⟩
  split at h
  · contradiction
  · rename_i hunfit
    have hfits : ∀ e ∈ encoded, e.row.fits = true := by simpa using hunfit
    split at h
    · rename_i ht
      obtain ⟨truth, htruth, h⟩ := bind_eq_ok.mp h
      obtain rfl := Except.ok.inj h
      obtain ⟨t, hplaced, hsome⟩ := bind_eq_ok.mp htruth
      exact ⟨hroutes, hencoded, hfits, rfl, rfl, rfl, rfl,
        fun _ => ⟨t, hplaced, (Except.ok.inj hsome).symm⟩, fun hf => by simp [hf] at ht⟩
    · rename_i ht
      obtain ⟨truth, htruth, h⟩ := bind_eq_ok.mp h
      obtain rfl := Except.ok.inj h
      exact ⟨hroutes, hencoded, hfits, rfl, rfl, rfl, rfl, fun htrue => absurd htrue ht,
        fun _ => (Except.ok.inj htruth).symm⟩

/-- What a builder does when it gives a record. -/
theorem build_parts (h : b.build n messages = .ok r) :
    ∃ encoded, List.Forall₂ b.Encodes (deliveries messages) encoded ∧
      r.collections = b.collections encoded ∧
      (b.truth = true → ∃ t, Truth.ofPlaced (place [] encoded) = .ok t ∧ r.truth = some t) := by
  obtain ⟨routes, encoded, hb⟩ := builds_of_build h
  exact ⟨encoded, encodes_all hb.routed hb.encodes, hb.collections, hb.truth⟩

/-- Every encoded hit has its place in the record. -/
theorem seats_of_encodes (hr : r.collections = b.collections encoded)
    (h : List.Forall₂ b.Encodes (deliveries messages) encoded) :
    List.Forall₂ (b.Seats r) (deliveries messages) (place [] encoded) := by
  refine (forall₂_comp h (place_forall₂ [] encoded)).imp ?_
  rintro delivery p ⟨e, he, hp, hcollection, hrow, hhit⟩
  obtain ⟨name, hname, hindex⟩ := he.collection
  have hc := collections_getElem (names_of_collectionIndex hindex) encoded
  rw [← hr, ← hcollection] at hc
  refine ⟨hhit.trans he.hit, ⟨_, hc, hname⟩, hrow ▸ he.sensor, hrow ▸ he.row, ?_⟩
  rw [Record.row?, hc]
  exact place_row [] encoded p hp

end Builder

end PixelTelescope.Event
