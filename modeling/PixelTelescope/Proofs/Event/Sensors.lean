import PixelTelescope.Proofs.Event.Joins
import PixelTelescope.Proofs.Table.Conserved

namespace PixelTelescope.Event

def Record.rows {α : Type} (r : Record α) : List (Row α) := r.collections.flatMap (·.rows)

def Record.sensorIds {α : Type} (r : Record α) : List Int :=
  r.rows.map (·.sensorId) ++
    r.truth.toList.flatMap fun t => t.clusters.map (·.sensorId) ++ t.simHits.map (·.sensorId)

variable {b : Builder} {n : Int} {messages : List (Message Float)} {r : Record Float}

theorem Record.mem_rows {collection index : Nat} {row : Row Float}
    (h : r.row? collection index = some row) : row ∈ r.rows := by
  obtain ⟨c, hc, hrow⟩ := Option.bind_eq_some_iff.mp h
  exact List.mem_flatMap.mpr ⟨c, List.mem_of_getElem? hc, List.mem_of_getElem? hrow⟩

/-- Every row stems from one hit, and every hit has one row, under the ID of its detector. -/
theorem Builder.rows_delivered (h : b.build n messages = .ok r) :
    ∃ rows, rows.Perm r.rows ∧
      List.Forall₂ (fun d row => b.assignment.sensorIdFor d.1.detector = .ok row.sensorId ∧
        b.encodeHit row.sensorId d.2 = .ok row) (deliveries messages) rows := by
  obtain ⟨encoded, hencodes, hcollections, -⟩ := build_parts h
  have hlisted : ∀ e ∈ encoded, e.collection < b.assignment.names.length := by
    intro e he
    obtain ⟨d, -, hd⟩ := exists_of_mem_right hencodes he
    obtain ⟨name, -, hindex⟩ := hd.collection
    exact (List.getElem?_eq_some_iff.mp (names_of_collectionIndex hindex)).1
  have hperm := (Table.collections_perm hlisted).map Prod.snd
  rw [List.map_map, List.map_flatMap] at hperm
  simp only [List.map_map, Function.comp_def, List.map_id', ← hcollections] at hperm
  refine ⟨encoded.map (·.row), hperm.symm, ?_⟩
  rw [List.forall₂_map_right_iff]
  exact hencodes.imp fun _ _ he => ⟨he.sensor, he.row⟩

theorem Truth.Joins.cluster_row {t : Truth Float} {placed : List (Placed Float)}
    (h : t.Joins r placed) {c : Cluster Float} (hc : c ∈ t.clusters) :
    ∃ row ∈ r.rows, row.sensorId = c.sensorId := by
  obtain ⟨rows, hrows, -, hpos, hsame, -⟩ := h.members c hc
  obtain ⟨row, hrow⟩ := List.exists_mem_of_length_pos hpos
  obtain ⟨l, -, hl⟩ := exists_of_mem_right hrows hrow
  exact ⟨row, Record.mem_rows hl, hsame row hrow⟩

theorem Truth.Joins.simHit_row {t : Truth Float} {placed : List (Placed Float)}
    (h : t.Joins r placed) {s : SimHit Float} (hs : s ∈ t.simHits) :
    ∃ row ∈ r.rows, row.sensorId = s.sensorId := by
  obtain ⟨q, -, -, -, hrow, -⟩ := exists_of_mem_right h.simHits hs
  obtain ⟨row, hrow, hsame⟩ := Option.map_eq_some_iff.mp hrow
  exact ⟨row, Record.mem_rows hrow, hsame⟩

/-- Where a built record has a truth, what it was made from. -/
theorem Builder.truth_parts (h : b.build n messages = .ok r) {t : Truth Float}
    (ht : r.truth = some t) : ∃ placed, List.Forall₂ (b.Seats r) (deliveries messages) placed ∧
      t.Joins r placed ∧ Truth.ofPlaced placed = .ok t := by
  obtain ⟨routes, encoded, hb⟩ := builds_of_build h
  cases htruth : b.truth with
  | false =>
    rw [hb.bare htruth] at ht
    contradiction
  | true =>
    obtain ⟨t', hplaced, ht'⟩ := hb.truth htruth
    obtain rfl : t' = t := Option.some.inj (ht'.symm.trans ht)
    have hseats := seats_of_encodes hb.collections (encodes_all hb.routed hb.encodes)
    refine ⟨place [] encoded, hseats, Truth.joins_of_ofPlaced hplaced fun p hp => ?_, hplaced⟩
    obtain ⟨delivery, -, hseat⟩ := exists_of_mem_right hseats hp
    exact hseat.row

/-- The truth names no sensor that no hit names. -/
theorem Builder.sensorIds_of_rows (h : b.build n messages = .ok r) {id : Int}
    (hid : id ∈ r.sensorIds) : ∃ row ∈ r.rows, row.sensorId = id := by
  rcases List.mem_append.mp hid with hid | hid
  · exact List.mem_map.mp hid
  · obtain ⟨t, ht, hid⟩ := List.mem_flatMap.mp hid
    obtain ⟨placed, -, hjoins, -⟩ := truth_parts h (Option.mem_toList.mp ht)
    rcases List.mem_append.mp hid with hid | hid
    · obtain ⟨c, hc, rfl⟩ := List.mem_map.mp hid
      exact hjoins.cluster_row hc
    · obtain ⟨s, hs, rfl⟩ := List.mem_map.mp hid
      exact hjoins.simHit_row hs

end PixelTelescope.Event
