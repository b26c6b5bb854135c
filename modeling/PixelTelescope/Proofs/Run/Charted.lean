import PixelTelescope.Proofs.Run.HitMap
import PixelTelescope.Proofs.Run.RoundTrip
import PixelTelescope.Proofs.Run.Written

namespace PixelTelescope.Run

variable {α : Type} {rs : List (Event.Record α)} {w : Desk α} {path : Path}

/-- Reading the maps of a run is a matter of its hits alone. -/
theorem Desk.Written.readMaps (h : w.Written path rs) (filter : Option String) {name : String}
    (hname : path.SpelledBy name) :
    ((∃ maps, Run.readMaps w.close.state.disk name filter = .ok maps) ↔
      ∀ s, hitsOn filter rs s ≠ [] → ∃ rows columns, Spans rows columns (hitsOn filter rs s)) ∧
    ∀ maps, Run.readMaps w.close.state.disk name filter = .ok maps →
      Charts maps (hitsOn filter rs) := by
  obtain ⟨f, hread, hrecords⟩ := h.closed_records.2 name hname
  have hmaps : Run.readMaps w.close.state.disk name filter = hitMaps filter (byNumber rs) := by
    rw [Run.readMaps, bind_of_ok hread, bind_of_ok hrecords]
  have hperm (s : Int) := hitsOn_perm filter (byNumber_perm rs) s
  rw [hmaps, exists_hitMaps_iff]
  refine ⟨forall_congr' fun s => ?_, fun maps h => (charts_of_hitMaps h).perm hperm⟩
  have hspans (rows columns : Nat) : Spans rows columns (hitsOn filter (byNumber rs) s) ↔
      Spans rows columns (hitsOn filter rs s) :=
    ⟨Spans.perm (hperm s), Spans.perm (hperm s).symm⟩
  simp only [hspans, ← List.length_pos_iff, (hperm s).length_eq]

/-- The maps of a run count the hits of its sensors. A negative index counts as one from the end of
its axis, and so leads to a pixel that was not hit, or to none, and then there are no maps. -/
theorem hit_maps_count_hits (h : w.Written path rs) (filter : Option String) :
    path.SpelledBy path.text ∧ ∀ name, path.SpelledBy name →
      ((∃ maps, readMaps w.close.state.disk name filter = .ok maps) ↔
        ∀ s, hitsOn filter rs s ≠ [] → ∃ rows columns, Spans rows columns (hitsOn filter rs s)) ∧
      ∀ maps, readMaps w.close.state.disk name filter = .ok maps →
        Charts maps (hitsOn filter rs) ∧
        ∀ s m, (s, m) ∈ maps → (∀ hit ∈ hitsOn filter rs s, 0 ≤ hit.y ∧ 0 ≤ hit.x) →
          ∀ row < m.rows, ∀ column < m.columns,
            m.count row column = (hitsAt row column (hitsOn filter rs s)).length := by
  refine ⟨h.closed_records.1, fun name hname => ?_⟩
  obtain ⟨hexists, hcharts⟩ := h.readMaps filter hname
  refine ⟨hexists, fun maps hmaps => ⟨hcharts maps hmaps, ?_⟩⟩
  intro s m hm hpos row hrow column hcolumn
  exact ((hcharts maps hmaps).shows s m hm).exact hpos hrow hcolumn

def pointedMessage (points : List (Int × Int)) : Event.Message Float where
  detector := "plane"
  hits := points.map fun p => ⟨"plane", .whole p.1, .whole p.2, .real 1.5, .real 0.25, []⟩

def pointedRows (points : List (Int × Int)) : List (Event.Row Float) :=
  points.map fun p => ⟨0, p.1, p.2, 1.5, some 0.25⟩

def pointedRecord (points : List (Int × Int)) : Event.Record Float where
  run := 5
  number := 1
  type := 2
  collections := [⟨"hits", .timed, pointedRows points⟩]
  truth := none

def pointedDesk (points : List (Int × Int)) : Desk Float :=
  ((usedDesk.openRun (.ofText "run.h5") (.whole 5) "telescope" none).state.append {}
    (pointedRecord points)).state

variable {points : List (Int × Int)}

theorem pointedDesk_written (points : List (Int × Int)) :
    (pointedDesk points).Written (.ofText "run.h5") [pointedRecord points] := by
  have hopened : (usedDesk.openRun (.ofText "run.h5") (.whole 5) "telescope" none).state.Written
      (.ofText "run.h5") [] := .opened rfl
  have hparts : nameParts "hits" = ["hits"] := nameParts_of_valid (by decide)
  refine hopened.snoc (by simp) ⟨rfl, rfl, rfl, ?_, by simp [pointedRecord]⟩
  simp [pointedRecord, hparts]

/-- No name selects every collection. -/
theorem filter_isSelected_none (cs : List (Event.Collection α)) :
    cs.filter (isSelected none) = cs :=
  List.filter_eq_self.mpr fun _ _ => rfl

theorem hitsOn_pointed (s : Int) :
    hitsOn none [pointedRecord points] s = if s = 0 then pointedRows points else [] := by
  have hrows : hitsOn none [pointedRecord points] s =
      (pointedRows points).filter (·.sensorId = s) := by
    simp [hitsOn, pointedRecord, filter_isSelected_none]
  rw [hrows]
  split
  · rename_i hs
    simp [pointedRows, List.filter_map, Function.comp_def, hs]
  · rename_i hs
    simp [pointedRows, List.filter_map, Function.comp_def, Ne.symm hs]

/-- The one sensor of a run whose hits span a grid has a map. -/
theorem pointed_maps {rows columns : Nat} (h : Spans rows columns (pointedRows points)) :
    ∃ maps, readMaps (pointedDesk points).close.state.disk "run.h5" none = .ok maps := by
  have hwritten := pointedDesk_written points
  obtain ⟨hexists, -⟩ := hwritten.readMaps none hwritten.closed_records.1
  refine hexists.mpr fun s hs => ?_
  rw [hitsOn_pointed] at hs ⊢
  split at hs
  · rename_i hzero
    rw [if_pos hzero]
    exact ⟨rows, columns, h⟩
  · exact absurd rfl hs

theorem pointed_shows {rows columns : Nat} (h : Spans rows columns (pointedRows points))
    {maps : List (Int × HitMap)} (hc : Charts maps (hitsOn none [pointedRecord points])) :
    ∃ m, (0, m) ∈ maps ∧ m.rows = rows ∧ m.columns = columns ∧ m.Shows (pointedRows points) := by
  have hhits : hitsOn none [pointedRecord points] 0 = pointedRows points := hitsOn_pointed 0
  obtain ⟨first, hfirst, -⟩ := h.lastRow
  have hkey : (0 : Int) ∈ Keyed.keys maps := (hc.sensors 0).mpr (hhits ▸ List.ne_nil_of_mem hfirst)
  obtain ⟨⟨s, m⟩, hm, rfl⟩ := List.mem_map.mp hkey
  have hshows := hc.shows _ m hm
  rw [hhits] at hshows
  obtain ⟨hrows, hcolumns⟩ := hshows.spans.unique h
  exact ⟨m, hm, hrows, hcolumns, hshows⟩

theorem hit_maps_count_hits_repeated :
    (pointedDesk [(7, 3), (0, 1), (7, 3)]).Written (.ofText "run.h5")
      [pointedRecord [(7, 3), (0, 1), (7, 3)]] ∧
    ∃ maps m, readMaps (pointedDesk [(7, 3), (0, 1), (7, 3)]).close.state.disk "run.h5" none =
      .ok maps ∧ (0, m) ∈ maps ∧ m.rows = 4 ∧ m.columns = 8 ∧ m.count 3 7 = 2 := by
  have hspans : Spans 4 8 (pointedRows [(7, 3), (0, 1), (7, 3)]) := by
    constructor <;> simp [pointedRows, Bounds.greatest64]
  obtain ⟨maps, hread⟩ := pointed_maps hspans
  obtain ⟨hspelled, hmaps⟩ := hit_maps_count_hits (pointedDesk_written _) none
  obtain ⟨hcharts, hexact⟩ := (hmaps _ hspelled).2 maps hread
  obtain ⟨m, hm, hrows, hcolumns, -⟩ := pointed_shows hspans hcharts
  refine ⟨pointedDesk_written _, maps, m, hread, hm, hrows, hcolumns, ?_⟩
  rw [hexact 0 m hm ?_ 3 (by omega) 7 (by omega), hitsOn_pointed]
  · rfl
  · rw [hitsOn_pointed]
    simp [pointedRows]

/-- A hit beside the sensor is taken for one on its last pixel. -/
theorem negative_hit_counts_elsewhere :
    plane.build 1 [pointedMessage [(2, 3), (-1, -1)]] = .ok (pointedRecord [(2, 3), (-1, -1)]) ∧
    ∃ maps m, readMaps (pointedDesk [(2, 3), (-1, -1)]).close.state.disk "run.h5" none = .ok maps ∧
      (0, m) ∈ maps ∧ 3 < m.rows ∧ 2 < m.columns ∧ m.count 3 2 = 2 ∧
      (hitsAt 3 2 (hitsOn none [pointedRecord [(2, 3), (-1, -1)]] 0)).length = 1 := by
  have hspans : Spans 4 3 (pointedRows [(2, 3), (-1, -1)]) := by
    constructor <;> simp [pointedRows, Bounds.greatest64]
  obtain ⟨maps, hread⟩ := pointed_maps hspans
  have hwritten := pointedDesk_written [(2, 3), (-1, -1)]
  have hcharts := (hwritten.readMaps none hwritten.closed_records.1).2 maps hread
  obtain ⟨m, hm, hrows, hcolumns, hshows⟩ := pointed_shows hspans hcharts
  refine ⟨rfl, maps, m, hread, hm, by omega, by omega, ?_, ?_⟩
  · rw [hshows.cells 3 (by omega) 2 (by omega), landing, hrows, hcolumns]
    rfl
  · rw [hitsOn_pointed]
    rfl

end PixelTelescope.Run
