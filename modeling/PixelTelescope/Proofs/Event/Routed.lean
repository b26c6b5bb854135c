import PixelTelescope.Event.Builder
import PixelTelescope.Proofs.Decimal.Truncated
import PixelTelescope.Proofs.Event.Accepted
import PixelTelescope.Proofs.Event.Sensors
import PixelTelescope.Proofs.Outcome
import PixelTelescope.Proofs.Run.Built

namespace PixelTelescope.Event

section Unnamed

variable {α : Type}

def Hit.unnamed (h : Hit α) : Hit α := { h with detector := "" }

def Message.unnamed (m : Message α) : Message α := { m with hits := m.hits.map Hit.unnamed }

def Route.unnamed (r : Route α) : Route α := { r with message := r.message.unnamed }

def Encoded.unnamed (e : Encoded α) : Encoded α := { e with hit := e.hit.unnamed }

def Placed.unnamed (p : Placed α) : Placed α := { p with hit := p.hit.unnamed }

theorem place_unnamed (before : List Nat) (encoded : List (Encoded α)) :
    place before (encoded.map Encoded.unnamed) = (place before encoded).map Placed.unnamed := by
  induction encoded generalizing before with
  | nil => rfl
  | cons e rest ih =>
    rw [List.map_cons, place, ih]
    rfl

variable [Scalar α]

theorem Truth.ofPlaced_unnamed (placed : List (Placed α)) :
    Truth.ofPlaced (placed.map Placed.unnamed) = Truth.ofPlaced placed := by
  have hmatches : (placed.map Placed.unnamed).mapM Match.ofPlaced =
      placed.mapM Match.ofPlaced := by
    rw [List.mapM_map]
    rfl
  rw [Truth.ofPlaced, hmatches]
  rfl

namespace Builder

variable {b : Builder}

theorem encodeAll_unnamed (routes : List (Route α)) :
    b.encodeAll (routes.map Route.unnamed) =
      (b.encodeAll routes).map (List.map Encoded.unnamed) := by
  have hpairs : ((routes.map Route.unnamed).flatMap fun r => r.message.hits.map (r, ·)) =
      (routes.flatMap fun r => r.message.hits.map (r, ·)).map
        (Prod.map Route.unnamed Hit.unnamed) := by
    rw [List.flatMap_map, List.map_flatMap]
    refine List.flatMap_congr fun r _ => ?_
    simp [Route.unnamed, Message.unnamed, Function.comp_def]
  rw [encodeAll, hpairs, List.mapM_map, encodeAll, ← mapM_map_result]
  congr 1
  funext pair
  obtain ⟨r, hit⟩ := pair
  simp only [Function.comp_apply, Prod.map_apply, encode]
  have hrow : b.encodeHit r.unnamed.sensorId hit.unnamed = b.encodeHit r.sensorId hit := rfl
  rw [hrow]
  cases b.encodeHit r.sensorId hit <;> rfl

omit [Scalar α] in
theorem route_unnamed (m : Message α) : b.route m.unnamed = (b.route m).map Route.unnamed := by
  have hdetector : m.unnamed.detector = m.detector := rfl
  unfold route
  rw [hdetector]
  cases b.assignment.collectionFor m.detector with
  | error e => rfl
  | ok name =>
    simp only [bind, Except.bind]
    cases b.assignment.collectionIndex name with
    | error e => rfl
    | ok index => cases b.assignment.sensorIdFor m.detector <;> rfl

omit [Scalar α] in
theorem collections_unnamed (encoded : List (Encoded α)) :
    b.collections (encoded.map Encoded.unnamed) = b.collections encoded := by
  simp only [collections, List.filter_map, List.map_map]
  rfl

/-- The detector that a hit names itself plays no part: that of its message does. -/
theorem build_unnamed (n : Int) (messages : List (Message α)) :
    b.build n (messages.map Message.unnamed) = b.build n messages := by
  have hroutes : (messages.map Message.unnamed).mapM b.route =
      (messages.mapM b.route).map (List.map Route.unnamed) := by
    rw [List.mapM_map, ← mapM_map_result]
    congr 1
    exact funext route_unnamed
  have hfits (encoded : List (Encoded α)) :
      ((encoded.map Encoded.unnamed).any fun e => !e.row.fits) =
        encoded.any fun e => !e.row.fits := by
    rw [List.any_map]
    rfl
  rw [build, hroutes, build]
  cases messages.mapM b.route with
  | error e => rfl
  | ok routes =>
    show (b.encodeAll (routes.map Route.unnamed) >>= _) = (b.encodeAll routes >>= _)
    rw [encodeAll_unnamed]
    cases b.encodeAll routes with
    | error e => rfl
    | ok encoded =>
      simp only [Except.map, bind, Except.bind, hfits, place_unnamed, Truth.ofPlaced_unnamed,
        collections_unnamed]

end Builder

end Unnamed

namespace Builder

section

variable {α : Type} [Scalar α] {b : Builder} {n : Int} {messages : List (Message α)} {r : Record α}

/-- Leaving the truth out changes nothing else of a record. -/
theorem build_without_truth (h : b.build n messages = .ok r) :
    { b with truth := false }.build n messages = .ok { r with truth := none } := by
  obtain ⟨routes, hroutes, h⟩ := bind_eq_ok.mp h
  obtain ⟨encoded, hencoded, h⟩ := bind_eq_ok.mp h
  have hroutes' : messages.mapM { b with truth := false }.route = .ok routes := hroutes
  have hencoded' : { b with truth := false }.encodeAll routes = .ok encoded := hencoded
  rw [build, bind_of_ok hroutes', bind_of_ok hencoded']
  split at h
  · contradiction
  · rename_i hfits
    rw [if_neg hfits]
    split at h
    all_goals
      obtain ⟨truth, -, h⟩ := bind_eq_ok.mp h
      obtain rfl := Except.ok.inj h
      rfl

/-- Messages are routed before any hit is looked at. -/
theorem build_unknown {before after : List (Message α)} {m : Message α}
    (hbefore : ∀ m' ∈ before, b.assignment.Places m'.detector)
    (hm : Keyed.get? m.detector b.assignment.collections = none) :
    b.build n (before ++ m :: after) = .error (.unknownDetector m.detector) := by
  have hroute : b.route m = .error (.unknownDetector m.detector) := by
    rw [route, Assignment.collectionFor, hm]
    rfl
  have hroutes : (before ++ m :: after).mapM b.route = .error (.unknownDetector m.detector) :=
    mapM_first_error (fun m' hm' => (route_places (hbefore m' hm')).imp fun _ h => h.1) hroute
  rw [build, hroutes]
  rfl

def sentTo {β : Type} (b : Builder) (name : String) (messages : List (Message β)) :
    List (Message β) :=
  messages.filter fun m => Keyed.get? m.detector b.assignment.collections = some name

omit [Scalar α] in
theorem deliveries_filter (p : Message α → Bool) (messages : List (Message α)) :
    deliveries (messages.filter p) = (deliveries messages).filter fun d => p d.1 := by
  induction messages with
  | nil => rfl
  | cons m rest ih =>
    have hcons : deliveries (m :: rest) = m.hits.map (m, ·) ++ deliveries rest := rfl
    rw [hcons, List.filter_append, ← ih]
    cases hp : p m with
    | true => simp [deliveries, List.filter_map, Function.comp_def, hp]
    | false => simp [deliveries, List.filter_map, Function.comp_def, hp]

/-- A hit has its row in the collection that its detector is assigned to. -/
theorem Encodes.collection_iff {d : Message α × Hit α} {e : Encoded α} {name : String}
    {index : Nat} (h : b.Encodes d e) (hd : b.assignment.names.Nodup)
    (hname : b.assignment.names[index]? = some name) :
    Keyed.get? d.1.detector b.assignment.collections = some name ↔ e.collection = index := by
  obtain ⟨own, hown, hindex⟩ := h.collection
  have hlisted := names_of_collectionIndex hindex
  rw [Assignment.collectionFor_ok.mp hown, Option.some.injEq]
  constructor
  · rintro rfl
    obtain ⟨hlt, -⟩ := List.getElem?_eq_some_iff.mp hlisted
    exact (List.getElem?_inj hlt hd).mp (hlisted.trans hname.symm)
  · rintro rfl
    exact Option.some.inj (hlisted.symm.trans hname)

/-- The rows of a collection are those of the hits that are sent to it, in order. -/
theorem rows_sentTo (hd : b.assignment.names.Nodup) (h : b.build n messages = .ok r)
    {c : Collection α} (hc : c ∈ r.collections) :
    c.pixelType = b.pixelType ∧ List.Forall₂ (fun d row =>
      b.assignment.sensorIdFor d.1.detector = .ok row.sensorId ∧
        b.Stores row.sensorId d.2 row) (deliveries (b.sentTo c.name messages)) c.rows := by
  obtain ⟨-, -, -, hnames⟩ := Run.build_ok h
  obtain ⟨encoded, hencodes, hcollections, -⟩ := build_parts h
  obtain ⟨index, hindex⟩ := List.mem_iff_getElem?.mp hc
  have hname : b.assignment.names[index]? = some c.name := by
    rw [← hnames, List.getElem?_map, hindex, Option.map_some]
  have hown := collections_getElem hname encoded
  rw [← hcollections, hindex] at hown
  have hrows : c.rows = (encoded.filter (·.collection = index)).map (·.row) :=
    congrArg Collection.rows (Option.some.inj hown)
  refine ⟨congrArg Collection.pixelType (Option.some.inj hown), ?_⟩
  rw [hrows, sentTo, deliveries_filter, List.forall₂_map_right_iff]
  have hkept := List.rel_filter (R := b.Encodes)
    (p := fun d => Keyed.get? d.1.detector b.assignment.collections = some c.name)
    (q := fun e => e.collection = index)
    (fun d e hde => by simpa using hde.collection_iff hd hname) hencodes
  exact hkept.imp fun d e hde => ⟨hde.sensor, encodeHit_eq_ok.mp hde.row⟩

end

structure Encoding (b : Builder) (delivery : Message Float × Hit Float) (row : Row Float) :
    Prop where
  sensor : Keyed.get? delivery.1.detector b.assignment.sensorIds = some row.sensorId
  x : delivery.2.column.CutsTo row.x
  y : delivery.2.row.CutsTo row.y
  signal : delivery.2.signal.toScalar = .ok row.signal
  simple : b.pixelType = .simple → row.time = none
  timed : b.pixelType = .timed → ∃ t, delivery.2.time.toScalar = .ok t ∧ row.time = some t

theorem Stores.encoding {b : Builder} {d : Message Float × Hit Float} {row : Row Float}
    (hsensor : b.assignment.sensorIdFor d.1.detector = .ok row.sensorId)
    (h : b.Stores row.sensorId d.2 row) : b.Encoding d row :=
  ⟨Assignment.sensorIdFor_ok.mp hsensor, Reading.toInt_eq_ok.mp h.x, Reading.toInt_eq_ok.mp h.y,
    h.signal, h.simple, h.timed⟩

/-- A record whose collections hold the hits that were sent to them, and nothing else. -/
structure Routes (b : Builder) (messages : List (Message Float)) (r : Record Float) : Prop where
  names : r.collections.map (·.name) = b.assignment.names
  pixelType : ∀ c ∈ r.collections, c.pixelType = b.pixelType
  rows : ∀ c ∈ r.collections, List.Forall₂ b.Encoding (deliveries (b.sentTo c.name messages)) c.rows
  count : r.hitCount = (messages.map (·.hits.length)).sum

/-- What a built record holds, collection by collection. -/
theorem routes_of_build {b : Builder} {n : Int} {messages : List (Message Float)}
    {r : Record Float} (hd : b.assignment.names.Nodup) (h : b.build n messages = .ok r) :
    b.Routes messages r := by
  obtain ⟨-, -, -, hnames⟩ := Run.build_ok h
  refine ⟨hnames, ?_, ?_, ?_⟩
  · intro c hc
    exact (rows_sentTo hd h hc).1
  · intro c hc
    exact (rows_sentTo hd h hc).2.imp fun d row hrow => hrow.2.encoding hrow.1
  · obtain ⟨rows, hperm, hdelivered⟩ := rows_delivered h
    have hlength : (deliveries messages).length = (messages.map (·.hits.length)).sum := by
      simp [deliveries, List.length_flatMap]
    rw [← hlength, hdelivered.length_eq, hperm.length_eq]
    rfl

end Builder

/-- An event is routed as its assignment says, whatever style that was resolved from. The first
message of an unknown detector ends it, with hits or without; where there is none and everything
fits, every hit has its row in the collection of its message's detector. -/
theorem event_follows_assignment {b : Builder} {request : Assignment.Request}
    (h : request.resolve = .ok b.assignment) (n : Int) (messages : List (Message Float)) :
    (∀ m, messages.find? (fun m => (Keyed.get? m.detector b.assignment.collections).isNone) =
        some m → b.build n messages = .error (.unknownDetector m.detector)) ∧
      ((∀ m ∈ messages, Keyed.get? m.detector b.assignment.collections ≠ none) →
        b.Fits messages → ∃ r, b.build n messages = .ok r ∧ b.Routes messages r) ∧
      (∀ messages' : List (Message Float),
        messages'.map Message.unnamed = messages.map Message.unnamed →
        b.build n messages' = b.build n messages) ∧
      ∀ truth r, { b with truth }.build n messages = .ok r →
        { b with truth := false }.build n messages = .ok { r with truth := none } := by
  have hplaces : ∀ m : Message Float, Keyed.get? m.detector b.assignment.collections ≠ none →
      b.assignment.Places m.detector := by
    intro m hm
    obtain ⟨name, hname⟩ := Option.ne_none_iff_exists'.mp hm
    exact (Assignment.Request.resolve_complete h).places (Assignment.collectionFor_ok.mpr hname)
  refine ⟨?_, ?_, ?_, ?_⟩
  · intro m hfind
    obtain ⟨hm, before, after, rfl, hbefore⟩ := List.find?_eq_some_iff_append.mp hfind
    refine Builder.build_unknown (fun m' hm' => hplaces m' ?_) (Option.isNone_iff_eq_none.mp hm)
    have hknown := hbefore m' hm'
    rwa [Bool.not_eq_true', ← Bool.not_eq_true, Option.isNone_iff_eq_none] at hknown
  · intro hknown hfits
    obtain ⟨r, hr⟩ := Builder.build_fits n (fun m hm => hplaces m (hknown m hm)) hfits
    exact ⟨r, hr, Builder.routes_of_build (Assignment.Request.resolve_wellNamed h).distinct hr⟩
  · intro messages' hsame
    rw [← Builder.build_unnamed, hsame, Builder.build_unnamed]
  · intro truth r hr
    exact Builder.build_without_truth (b := { b with truth }) hr

def strips : Assignment.Request where
  detectors := ["front", "back", "side"]
  rows := some (.list [Value.texts ["front", "strips"], Value.texts ["back", "pixels", "9"],
    Value.texts ["side", "strips", "4"]])

def stripsBuilder : Builder where
  assignment := {
    collections := [("front", "strips"), ("back", "pixels"), ("side", "strips")]
    sensorIds := [("front", 0), ("back", 9), ("side", 4)]
    names := ["strips", "pixels"]
    source := .long }
  truth := true

def strayHit (column row : Int) : Hit Float :=
  ⟨"stray", .whole column, .whole row, .real 1.5, .real 0.25, []⟩

theorem strayHit_plain {column row : Int} (hcolumn : fitsColumn column = true)
    (hrow : fitsColumn row = true) : (strayHit column row).Plain :=
  ⟨⟨column, rfl, hcolumn⟩, ⟨row, rfl, hrow⟩, ⟨_, rfl⟩, ⟨_, rfl⟩, by simp [strayHit]⟩

def inTurn : List (Message Float) := [
  { detector := "side", hits := [strayHit 1 2, strayHit 3 4] },
  { detector := "back", hits := [strayHit 5 6] },
  { detector := "front", hits := [strayHit (-7) 8] },
  { detector := "back", hits := [] }]

theorem event_follows_assignment_shared :
    strips.resolve = .ok stripsBuilder.assignment ∧
      stripsBuilder.build 7 (inTurn ++ [⟨"gone", []⟩, ⟨"lost", [strayHit 1 1]⟩]) =
        .error (.unknownDetector "gone") ∧
      ∃ r, stripsBuilder.build 7 inTurn = .ok r ∧ stripsBuilder.Routes inTurn r ∧
        r.hitCount = 4 := by
  have hresolve : strips.resolve = .ok stripsBuilder.assignment := rfl
  have hplain : ∀ d ∈ deliveries inTurn, d.2.Plain := by
    intro d hd
    simp only [deliveries, inTurn, List.flatMap_cons, List.map_cons, List.map_nil, List.flatMap_nil,
      List.append_nil, List.cons_append, List.nil_append, List.mem_cons, List.not_mem_nil,
      or_false] at hd
    rcases hd with rfl | rfl | rfl | rfl <;> exact strayHit_plain rfl rfl
  have hids : ∀ pair ∈ stripsBuilder.assignment.sensorIds, fitsColumn pair.2 = true := by decide
  have hfits : stripsBuilder.Fits inTurn := by
    refine ⟨?_, ?_, ?_⟩
    · intro d _ id hid
      exact hids _ (Keyed.mem_of_get? (Assignment.sensorIdFor_ok.mp hid))
    · intro d hd
      exact (hplain d hd).encodable _
    · intro _ d hd
      exact (hplain d hd).traceable
  have hknown : ∀ m ∈ inTurn,
      Keyed.get? m.detector stripsBuilder.assignment.collections ≠ none := by
    intro m hm
    simp only [inTurn, List.mem_cons, List.not_mem_nil, or_false] at hm
    rcases hm with rfl | rfl | rfl | rfl <;> exact Option.some_ne_none _
  obtain ⟨r, hr, hroutes⟩ := (event_follows_assignment hresolve 7 inTurn).2.1 hknown hfits
  refine ⟨hresolve, ?_, r, hr, hroutes, hroutes.count⟩
  exact (event_follows_assignment hresolve 7 (inTurn ++ _)).1 ⟨"gone", []⟩ rfl

end PixelTelescope.Event
