import PixelTelescope.Proofs.Event.Accepted
import PixelTelescope.Proofs.Event.Sensors
import PixelTelescope.Proofs.Gear.Layers
import PixelTelescope.Proofs.Run.RoundTrip
import PixelTelescope.Proofs.Writer.Kept

namespace PixelTelescope

namespace Gear

structure Document.Agrees {α : Type} (doc : Document α) (a : Assignment) (names : List String) :
    Prop where
  layers : List.Forall₂ (fun name (l : Layer α) => l.detector = name ∧
    a.sensorIdFor name = .ok l.ladder.id ∧ l.sensitive.id = l.ladder.id) names doc.layers
  distinct : (doc.layers.map (·.ladder.id)).Nodup

def Document.Identifies {α : Type} (doc : Document α) (id : Int) : Prop :=
  ∃ layer, doc.layers.filter (·.ladder.id = id) = [layer]

/-- Every hit that was delivered has one row, which carries the ID of the layer of its detector, and
there are no other rows. -/
def Document.LinesUp (doc : Document Float) (b : Event.Builder)
    (messages : List (Event.Message Float)) (r : Event.Record Float) : Prop :=
  ∃ rows, rows.Perm r.rows ∧ List.Forall₂ (fun d (row : Event.Row Float) =>
    (∃ layer ∈ doc.layers, layer.detector = d.1.detector ∧ layer.ladder.id = row.sensorId) ∧
      b.encodeHit row.sensorId d.2 = .ok row) (Event.deliveries messages) rows

variable {doc : Document Float} {a : Assignment} {r : Geometry.Registry Float}

theorem agrees_of_ofRegistry {name : String} (hd : r.names.Nodup)
    (hplaces : ∀ d ∈ r.names, a.Places d) (hnumbers : a.Numbers r.names)
    (h : (Document.ofRegistry name a.sensorIds r).result = .ok doc) : doc.Agrees a r.names := by
  have hlayers : List.Forall₂ (fun name (l : Layer Float) => l.detector = name ∧
      a.sensorIdFor name = .ok l.ladder.id ∧ l.sensitive.id = l.ladder.id) r.names doc.layers := by
    rw [Geometry.Registry.names, ← List.zipIdx_map_fst 0 r.detectors, List.map_map,
      List.forall₂_map_left_iff]
    refine (forall₂_mem (ofRegistry_layers h)).imp ?_
    rintro ⟨d, place⟩ l ⟨hmem, -, hl⟩
    have hname : d.name ∈ r.names :=
      List.mem_map_of_mem (List.mem_of_getElem? (List.mem_zipIdx_iff_getElem?.mp hmem))
    obtain ⟨id, hid⟩ := (hplaces d.name hname).sensor
    dsimp only at hl
    rw [layerId_of_assigned hid place] at hl
    exact ⟨hl.detector, hl.ladder ▸ hid, hl.sensitive.trans hl.ladder.symm⟩
  refine ⟨hlayers, ?_⟩
  have hids : r.names.map a.sensorIdFor = (doc.layers.map (·.ladder.id)).map Except.ok := by
    rw [List.map_map]
    exact map_eq_of_forall₂ hlayers fun _ _ hl => hl.2.1
  have hapart : (r.names.map a.sensorIdFor).Nodup := by
    refine hd.map_on fun d hmem d' _ hsame => ?_
    obtain ⟨id, hid⟩ := (hplaces d hmem).sensor
    exact hnumbers.apart d d' id hid (hsame ▸ hid)
  rw [hids] at hapart
  exact hapart.of_map

namespace Document.Agrees

variable {names : List String}

theorem layer_of (h : doc.Agrees a names) (hnumbers : a.Numbers names) {detector : String}
    {id : Int} (hid : a.sensorIdFor detector = .ok id) :
    ∃ layer ∈ doc.layers, layer.detector = detector ∧ layer.ladder.id = id := by
  obtain ⟨layer, hlayer, hname, hladder, -⟩ :=
    exists_of_mem_right h.layers.flip (hnumbers.listed detector id hid)
  exact ⟨layer, hlayer, hname, Except.ok.inj (hladder.symm.trans hid)⟩

theorem identifies (h : doc.Agrees a names) {layer : Layer Float} (hlayer : layer ∈ doc.layers) :
    doc.Identifies layer.ladder.id :=
  ⟨layer, filter_of_nodup_map h.distinct hlayer⟩

variable {b : Event.Builder} {n : Int} {messages : List (Event.Message Float)}
  {record : Event.Record Float}

/-- A record names its sensors as the layers are named. -/
theorem of_build (h : doc.Agrees b.assignment names) (hnumbers : b.assignment.Numbers names)
    (hbuild : b.build n messages = .ok record) :
    doc.LinesUp b messages record ∧ ∀ id ∈ record.sensorIds, doc.Identifies id := by
  obtain ⟨rows, hperm, hrows⟩ := Event.Builder.rows_delivered hbuild
  constructor
  · exact ⟨rows, hperm, hrows.imp fun _ _ hrow => ⟨h.layer_of hnumbers hrow.1, hrow.2⟩⟩
  · intro id hid
    obtain ⟨row, hmem, rfl⟩ := Event.Builder.sensorIds_of_rows hbuild hid
    obtain ⟨d, -, hsensor, -⟩ := exists_of_mem_right hrows (hperm.mem_iff.mpr hmem)
    obtain ⟨layer, hlayer, -, hladder⟩ := h.layer_of hnumbers hsensor
    exact hladder ▸ h.identifies hlayer

end Document.Agrees

end Gear

namespace Writer

variable {w : Writer} {settings : Config.WriterSection} {registry : Geometry.Registry Float}
  {outputDir : String} {run : Int} {configText : Option String}
  {detectors : List (Geometry.Detector Float)} {field : Geometry.MagneticField Float}

/-- The layers of the geometry and the hits of the events name each detector by one ID. -/
theorem layers_agree_with_events
    (hregistry : Geometry.Registry.ofDetectors detectors field = .ok registry)
    (hcreate : (create settings registry outputDir run configText).result = .ok w) :
    (Gear.Tellable registry → ∃ doc,
      (Gear.Document.ofRegistry w.exporter.detectorName w.exporter.ids w.registry).result =
        .ok doc) ∧
    ∀ doc, (Gear.Document.ofRegistry w.exporter.detectorName w.exporter.ids w.registry).result =
        .ok doc →
      doc.Agrees w.assignment (detectors.map (·.name)) ∧
      (∀ p n messages r, (w.write n messages p).result = .ok r →
        doc.LinesUp w.builder messages r ∧ ∀ id ∈ r.sensorIds, doc.Identifies id) ∧
      ∀ before (es : List (Delivery Float)), (w.start before).result = .ok () →
        (∀ o ∈ Pool.outcomes (fun e => w.write e.1 e.2) (w.start before).state es,
          ∀ f, o.2 = .error f → ((w.start before).state.desk.hazards o.1.1).Clears) →
        ∃ path, (w.start before).state.eventFile = some path ∧ path.SpelledBy path.text ∧
          ∀ name, path.SpelledBy name → ∃ rs,
            (abort (Pool.settle (fun e => w.write e.1 e.2) (w.start before).state es)).state.events
              name = .ok rs ∧ ∀ r ∈ rs, ∀ id ∈ r.sensorIds, doc.Identifies id := by
  obtain ⟨rfl, hd⟩ := Geometry.Registry.ofDetectors_eq_ok.mp hregistry
  obtain ⟨hresolve, hsame, -, -⟩ := create_ok hcreate
  rw [hsame] at hresolve ⊢
  have hplaces := Assignment.Request.resolve_places hresolve
  have hnumbers : w.assignment.Numbers (detectors.map (·.name)) :=
    Assignment.Request.resolve_numbers hd hresolve
  refine ⟨fun htellable => htellable.document _ _, fun doc hdoc => ?_⟩
  have hagrees := Gear.agrees_of_ofRegistry hd hplaces hnumbers hdoc
  refine ⟨hagrees, ?_, ?_⟩
  · intro p n messages r hr
    obtain ⟨hbuild, -⟩ := write_returns (e := (n, messages)) hr
    exact hagrees.of_build hnumbers hbuild
  · intro before es hstart hclears
    obtain ⟨path, h⟩ := start_holds (create_outputDir hcreate) hstart
    refine ⟨path, h.file, h.spelledBy, fun name hname => ?_⟩
    obtain ⟨hholds, -⟩ := h.settle_returned hclears
    obtain ⟨-, hshows⟩ := hholds.abort
    refine ⟨_, hshows.events name hname, fun r hr => ?_⟩
    rw [(Run.byNumber_perm _).mem_iff, List.nil_append] at hr
    obtain ⟨o, ho, hsome⟩ := List.mem_filterMap.mp hr
    cases hresult : o.2 with
    | error f =>
      rw [hresult] at hsome
      contradiction
    | ok q =>
      rw [hresult] at hsome
      obtain rfl : q = r := Option.some.inj hsome
      exact (hagrees.of_build hnumbers (outcomes_built ho hresult)).2

def sensorNamed (name : String) : Geometry.Detector Float where
  name := name
  model := ⟨"sensor", [16, 16], [0.1, 0.1], 0.05, 0.0, 0.3⟩
  position := .vector [0.0, 0.0, 0.0]
  orientation := (Geometry.Mat3.identity : Geometry.Mat3 Float).toTensor

theorem shaped_sensorNamed (name : String) : Gear.Shaped (sensorNamed name) := by
  refine ⟨⟨_, _, _, rfl⟩, ⟨_, rfl⟩, ⟨16, 16, rfl, ?_⟩, ⟨_, _, rfl⟩⟩
  exact ⟨Decimal.ofInt?_of_fits32 (by decide), Decimal.ofInt?_of_fits32 (by decide)⟩

def crossedSettings : Config.WriterSection :=
  { fileName := "run", assignment := some [["far", "hits"], ["plane", "hits", "4"]] }

theorem layers_agree_with_events_crossed :
    ∃ w doc r,
      (create crossedSettings ⟨[sensorNamed "plane", sensorNamed "far"], .absent⟩ "out" 5
        none).result = .ok w ∧
      (Gear.Document.ofRegistry w.exporter.detectorName w.exporter.ids w.registry).result =
        .ok doc ∧
      doc.Agrees w.assignment ["plane", "far"] ∧
      (w.start { desk := { disk := .empty ["home"] } }).result = .ok () ∧
      (w.write 9 [Run.planeMessage 7]
        (w.start { desk := { disk := .empty ["home"] } }).state).result = .ok r ∧
      doc.LinesUp w.builder [Run.planeMessage 7] r ∧
      w.assignment.sensorIdFor "plane" = .ok 4 ∧ doc.Identifies 4 := by
  have hregistry : Geometry.Registry.ofDetectors [sensorNamed "plane", sensorNamed "far"] .absent =
      .ok ⟨[sensorNamed "plane", sensorNamed "far"], .absent⟩ := rfl
  have htellable : Gear.Tellable
      (⟨[sensorNamed "plane", sensorNamed "far"], .absent⟩ : Geometry.Registry Float) := by
    constructor
    · simp [shaped_sensorNamed]
    · intro h
      contradiction
  have hall : (create crossedSettings ⟨[sensorNamed "plane", sensorNamed "far"], .absent⟩ "out" 5
      none).result.toOption.any (fun w =>
        (w.start { desk := { disk := .empty ["home"] } }).result.toOption.any (fun _ => true) ∧
        w.assignment.sensorIdFor "plane" = .ok 4 ∧
        (w.write 9 [Run.planeMessage 7]
          (w.start { desk := { disk := .empty ["home"] } }).state).result.toOption.any
            fun r => 4 ∈ r.sensorIds) = true := by
    decide +kernel
  obtain ⟨w, hcreate, hw⟩ := any_toOption.mp hall
  obtain ⟨hstart, hid, hwrite⟩ := of_decide_eq_true hw
  obtain ⟨_, hstart, -⟩ := any_toOption.mp hstart
  obtain ⟨r, hwrite, hr⟩ := any_toOption.mp hwrite
  obtain ⟨hdocument, hagrees⟩ := layers_agree_with_events hregistry hcreate
  obtain ⟨doc, hdoc⟩ := hdocument htellable
  obtain ⟨hlayers, hwritten, -⟩ := hagrees doc hdoc
  obtain ⟨hlines, hidentifies⟩ := hwritten _ _ _ r hwrite
  exact ⟨w, doc, r, hcreate, hdoc, hlayers, hstart, hwrite, hlines, hid,
    hidentifies 4 (of_decide_eq_true hr)⟩

end Writer

end PixelTelescope
