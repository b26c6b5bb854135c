import PixelTelescope.Proofs.Table.Events

namespace PixelTelescope.Table

open Event (deliveries)

structure Row.KeptAs (b : Event.Builder) (r : Row Float) (kept : String × Event.Row Float) :
    Prop where
  assigned : ∃ d, r.detector = some d ∧ b.assignment.collectionFor d = .ok kept.1 ∧
    b.assignment.sensorIdFor d = .ok kept.2.sensorId
  x : kept.2.x = r.column
  y : kept.2.y = r.row
  signal : kept.2.signal = r.signal
  time : match b.pixelType with
    | .simple => kept.2.time = none
    | .timed => ∃ t, r.time.toScalar = .ok t ∧ kept.2.time = some t

structure Conserves (b : Event.Builder) (rows : List (Row Float)) (record : Event.Record Float) :
    Prop where
  /-- Every row stands in the record once, and nothing else does. -/
  once : ∃ kept, List.Forall₂ (Row.KeptAs b) rows kept ∧
    (record.collections.flatMap fun c => c.rows.map (c.name, ·)).Perm kept
  /-- The rows of a detector stand in their order. -/
  ordered : ∀ c ∈ record.collections, ∀ d, b.assignment.collectionFor d = .ok c.name →
    ∃ own, own.Sublist c.rows ∧ List.Forall₂ (fun (r : Row Float) row => r.KeptAs b (c.name, row))
      (rows.filter (·.detector = some d)) own

variable {b : Event.Builder} {n : Int} {messages : List (Event.Message Float)}
  {record : Event.Record Float} {rows : List (Row Float)} {r : Row Float}

theorem encodeHit_keeps {d name : String} {id : Int} {hit : Event.Hit Float}
    {row : Event.Row Float} (hd : r.detector = some d) (hgives : r.Gives hit)
    (hname : b.assignment.collectionFor d = .ok name)
    (hid : b.assignment.sensorIdFor d = .ok row.sensorId)
    (hrow : b.encodeHit id hit = .ok row) : r.KeptAs b (name, row) := by
  obtain ⟨t, ht, htime⟩ := hgives.time
  simp only [Event.Builder.encodeHit, hgives.column, hgives.row, hgives.signal, htime] at hrow
  cases hp : b.pixelType with
  | simple =>
    rw [hp] at hrow
    obtain rfl := Except.ok.inj hrow
    exact ⟨⟨d, hd, hname, hid⟩, rfl, rfl, rfl, by rw [hp]⟩
  | timed =>
    rw [hp] at hrow
    obtain rfl := Except.ok.inj hrow
    exact ⟨⟨d, hd, hname, hid⟩, rfl, rfl, rfl, by rw [hp]; exact ⟨t, ht, rfl⟩⟩

def named (b : Event.Builder) (e : Event.Encoded Float) : String × Event.Row Float :=
  ((b.assignment.names[e.collection]?).getD "", e.row)

structure EncodedAs (b : Event.Builder) (r : Row Float) (e : Event.Encoded Float) : Prop where
  kept : r.KeptAs b (named b e)
  listed : b.assignment.names[e.collection]? = some (named b e).1

theorem encodes_keeps {delivery : Event.Message Float × Event.Hit Float} {e : Event.Encoded Float}
    (hd : r.detector = some delivery.1.detector) (hgives : r.Gives delivery.2)
    (he : b.Encodes delivery e) : EncodedAs b r e := by
  obtain ⟨name, hname, hindex⟩ := he.collection
  have hlisted := Event.Builder.names_of_collectionIndex hindex
  have hsame : named b e = (name, e.row) := by rw [named, hlisted, Option.getD_some]
  refine ⟨?_, ?_⟩
  · rw [hsame]
    exact encodeHit_keeps hd hgives hname he.sensor he.row
  · rw [hsame]
    exact hlisted

/-- Collections neither drop nor repeat a hit. -/
theorem collections_perm {encoded : List (Event.Encoded Float)}
    (h : ∀ e ∈ encoded, e.collection < b.assignment.names.length) :
    ((b.collections encoded).flatMap fun c => c.rows.map (c.name, ·)).Perm
      (encoded.map (named b)) := by
  have hgrouped : ((b.collections encoded).flatMap fun c => c.rows.map (c.name, ·)) =
      (grouped (·.collection) (List.range b.assignment.names.length) encoded).map (named b) := by
    rw [grouped, List.range_eq_range', ← List.zipIdx_map_snd 0 b.assignment.names,
      Event.Builder.collections, List.map_flatMap, List.flatMap_map, List.flatMap_map]
    apply List.flatMap_congr
    rintro ⟨name, i⟩ hi
    rw [List.map_map]
    apply List.map_congr_left
    intro e he
    have hi := List.mem_zipIdx_iff_getElem?.mp hi
    have hcollection : e.collection = i := of_decide_eq_true (List.mem_filter.mp he).2
    simp only [Function.comp_apply, named, hcollection, hi, Option.getD_some]
  rw [hgrouped]
  exact (grouped_perm List.nodup_range fun e he => List.mem_range.mpr (h e he)).map _

variable {encoded : List (Event.Encoded Float)}

theorem once_of_encoded (h : List.Forall₂ (EncodedAs b) (byDetector rows) encoded) :
    ∃ kept, List.Forall₂ (Row.KeptAs b) rows kept ∧
      ((b.collections encoded).flatMap fun c => c.rows.map (c.name, ·)).Perm kept := by
  have hlisted : ∀ e ∈ encoded, e.collection < b.assignment.names.length := by
    intro e he
    obtain ⟨r, -, hr⟩ := exists_of_mem_right h he
    exact (List.getElem?_eq_some_iff.mp hr.listed).1
  have hmap : List.Forall₂ (Row.KeptAs b) (byDetector rows) (encoded.map (named b)) :=
    List.forall₂_map_right_iff.mpr (h.imp fun _ _ he => he.kept)
  obtain ⟨kept, hrows, hperm⟩ := List.perm_comp_forall₂ (byDetector_perm rows).symm hmap
  exact ⟨kept, hrows, (collections_perm hlisted).trans hperm.symm⟩

/-- What the rows of one detector are encoded as stands in the collection of the detector. -/
theorem EncodedAs.collection {d name : String} {i : Nat} {e : Event.Encoded Float}
    (h : EncodedAs b r e) (hr : r.detector = some d) (hnames : b.assignment.names.Nodup)
    (hi : b.assignment.names[i]? = some name) (hd : b.assignment.collectionFor d = .ok name) :
    named b e = (name, e.row) ∧ e.collection = i := by
  obtain ⟨hkeeps, hlisted⟩ := h
  obtain ⟨d', hd', hname, -⟩ := hkeeps.assigned
  obtain rfl : d' = d := Option.some.inj (hd'.symm.trans hr)
  have hsame : (named b e).1 = name := Except.ok.inj (hname.symm.trans hd)
  rw [hsame] at hlisted
  have hlt := (List.getElem?_eq_some_iff.mp hlisted).1
  exact ⟨Prod.ext hsame rfl, (List.getElem?_inj hlt hnames).mp (hlisted.trans hi.symm)⟩

theorem ordered_of_encoded (hnames : b.assignment.names.Nodup)
    (h : List.Forall₂ (EncodedAs b) (byDetector rows) encoded) :
    ∀ c ∈ b.collections encoded, ∀ d, b.assignment.collectionFor d = .ok c.name →
      ∃ own, own.Sublist c.rows ∧
        List.Forall₂ (fun (r : Row Float) row => r.KeptAs b (c.name, row))
          (rows.filter (·.detector = some d)) own := by
  intro c hc d hd
  obtain ⟨⟨name, i⟩, hi, rfl⟩ := List.mem_map.mp hc
  have hi := List.mem_zipIdx_iff_getElem?.mp hi
  obtain ⟨own, hown, hsub⟩ := forall₂_filter (fun r => r.detector = some d) h
  rw [filter_byDetector] at hown
  have hplace : List.Forall₂ (fun r e => EncodedAs b r e ∧
      named b e = (name, e.row) ∧ e.collection = i) (rows.filter (·.detector = some d)) own := by
    refine (forall₂_mem hown).imp ?_
    rintro r e ⟨hr, -, he⟩
    exact ⟨he, he.collection (of_decide_eq_true (List.mem_filter.mp hr).2) hnames hi hd⟩
  refine ⟨own.map (·.row), ?_, ?_⟩
  · have hall : own.filter (fun e => e.collection = i) = own := by
      refine List.filter_eq_self.mpr fun e he => ?_
      obtain ⟨r, -, -, -, hcollection⟩ := exists_of_mem_right hplace he
      exact decide_eq_true hcollection
    exact (hall ▸ hsub.filter _).map _
  · rw [List.forall₂_map_right_iff]
    exact hplace.imp fun _ _ he => he.2.1 ▸ he.1.kept

/-- A record that is built from the messages of some rows conserves them. -/
theorem build_conserves (hnames : b.assignment.names.Nodup)
    (hbuild : b.build n messages = .ok record)
    (hdelivered : List.Forall₂ (fun r d => r.detector = some d.1.detector ∧ r.Gives d.2)
      (byDetector rows) (deliveries messages)) : Conserves b rows record := by
  obtain ⟨encoded, hencoded, hcollections, -⟩ := Event.Builder.build_parts hbuild
  have hkept : List.Forall₂ (EncodedAs b) (byDetector rows) encoded := by
    refine (forall₂_comp hdelivered hencoded).imp ?_
    rintro r e ⟨d, ⟨hd, hgives⟩, he⟩
    exact encodes_keeps hd hgives he
  constructor
  · rw [hcollections]
    exact once_of_encoded hkept
  · rw [hcollections]
    exact ordered_of_encoded hnames hkept

end PixelTelescope.Table
