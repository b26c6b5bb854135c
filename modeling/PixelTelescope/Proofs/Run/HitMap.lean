import PixelTelescope.Proofs.Distinct
import PixelTelescope.Proofs.Keyed
import PixelTelescope.Proofs.Outcome
import PixelTelescope.Run.HitMap

namespace PixelTelescope.Run

variable {α : Type} {filter : Option String} {rs : List (Event.Record α)}
  {hits others : List (Event.Row α)}

/-- An index that leads to a place on an axis: its own, or the one that many from the end. -/
def Lands (size place : Nat) (index : Int) : Prop := index = place ∨ index = place - size

instance (size place : Nat) (index : Int) : Decidable (Lands size place index) :=
  inferInstanceAs (Decidable (_ ∨ _))

def landing (m : HitMap) (row column : Nat) (hits : List (Event.Row α)) : List (Event.Row α) :=
  hits.filter fun h => Lands m.rows row h.y ∧ Lands m.columns column h.x

def hitsAt (row column : Nat) (hits : List (Event.Row α)) : List (Event.Row α) :=
  hits.filter fun h => h.y = row ∧ h.x = column

def hitsOn (filter : Option String) (rs : List (Event.Record α)) (sensorId : Int) :
    List (Event.Row α) :=
  (rs.flatMap fun r => (r.collections.filter (isSelected filter)).flatMap (·.rows)).filter
    (·.sensorId = sensorId)

/-- A grid that ends with the last row and the last column that were hit. All hits lead to it, also
those that are counted from its end, and it is not too large. -/
structure Spans (rows columns : Nat) (hits : List (Event.Row α)) : Prop where
  lastRow : ∃ h ∈ hits, h.y + 1 = rows
  lastColumn : ∃ h ∈ hits, h.x + 1 = columns
  inside : ∀ h ∈ hits, (-rows ≤ h.y ∧ h.y < rows) ∧ -columns ≤ h.x ∧ h.x < columns
  room : 4 * ((rows : Int) * columns) ≤ Bounds.greatest64

structure HitMap.Shows (m : HitMap) (hits : List (Event.Row α)) : Prop where
  spans : Spans m.rows m.columns hits
  cells : ∀ row < m.rows, ∀ column < m.columns,
    m.count row column = (landing m row column hits).length

namespace HitMap

theorem wrap_eq_ok {size place : Nat} {index : Int} :
    wrap size index = .ok place ↔ place < size ∧ Lands size place index := by
  unfold wrap Lands
  dsimp only
  split
  all_goals
    split
    · rename_i h
      simp only [Bool.and_eq_true, decide_eq_true_eq] at h
      rw [Except.ok.injEq]
      omega
    · rename_i h
      simp only [Bool.and_eq_true, decide_eq_true_eq] at h
      constructor
      · intro he
        contradiction
      · omega

theorem wrap_ok_iff {size : Nat} {index : Int} :
    (∃ place, wrap size index = .ok place) ↔ -size ≤ index ∧ index < size := by
  constructor
  · rintro ⟨place, h⟩
    obtain ⟨hlt, h⟩ := wrap_eq_ok.mp h
    unfold Lands at h
    omega
  · intro h
    by_cases hn : index < 0
    · exact ⟨(index + size).toNat, wrap_eq_ok.mpr ⟨by omega, .inr (by omega)⟩⟩
    · exact ⟨index.toNat, wrap_eq_ok.mpr ⟨by omega, .inl (by omega)⟩⟩

/-- An axis ends with the largest index on it. -/
theorem extent_spec (indices : List Int) (h : indices ≠ []) :
    (∃ i ∈ indices, i + 1 = extent indices) ∧ ∀ i ∈ indices, i < extent indices := by
  obtain ⟨first, rest, rfl⟩ := List.exists_cons_of_ne_nil h
  have hmax : (first :: rest).max? = some (rest.foldl max first) := List.max?_cons'
  obtain ⟨hmem, hle⟩ := List.max?_eq_some_iff.mp hmax
  have hextent : extent (first :: rest) = rest.foldl max first + 1 := by simp [extent]
  rw [hextent]
  refine ⟨⟨_, hmem, rfl⟩, ?_⟩
  intro i hi
  have hi := hle i hi
  omega

/-- The largest index is the only one that an axis can end with. -/
theorem extent_eq {indices : List Int} {size : Int} (hlast : ∃ i ∈ indices, i + 1 = size)
    (hless : ∀ i ∈ indices, i < size) : extent indices = size := by
  obtain ⟨i, hi, rfl⟩ := hlast
  obtain ⟨⟨j, hj, hextent⟩, hle⟩ := extent_spec indices (List.ne_nil_of_mem hi)
  have hij := hle i hi
  have hji := hless j hj
  omega

theorem hasRoom_iff {rows columns : Int} : hasRoom rows columns = true ↔
    0 ≤ rows ∧ 0 ≤ columns ∧ 4 * (rows * columns) ≤ Bounds.greatest64 := by
  simp [hasRoom, and_assoc]

/-- Every point is wrapped on both axes. -/
theorem ofPoints_eq_ok {points : List (Int × Int)} {m : HitMap} : ofPoints points = .ok m ↔
    hasRoom (extent (points.map (·.1))) (extent (points.map (·.2))) = true ∧
      m.rows = (extent (points.map (·.1))).toNat ∧
      m.columns = (extent (points.map (·.2))).toNat ∧
      List.Forall₂ (fun p q => wrap (extent (points.map (·.1))) p.1 = .ok q.1 ∧
        wrap (extent (points.map (·.2))) p.2 = .ok q.2) points m.pixels := by
  have hpixel (rows columns : Int) (p : Int × Int) (q : Nat × Nat) :
      (do
        let row ← liftM (wrap rows p.1)
        let column ← liftM (wrap columns p.2)
        return (row, column) : Except Failure (Nat × Nat)) = .ok q ↔
      wrap rows p.1 = .ok q.1 ∧ wrap columns p.2 = .ok q.2 := by
    rw [bind_eq_ok]
    constructor
    · rintro ⟨row, hrow, h⟩
      obtain ⟨column, hcolumn, h⟩ := bind_eq_ok.mp h
      obtain rfl := Except.ok.inj h
      exact ⟨liftShape_eq_ok.mp hrow, liftShape_eq_ok.mp hcolumn⟩
    · rintro ⟨hrow, hcolumn⟩
      exact ⟨q.1, liftShape_eq_ok.mpr hrow,
        bind_eq_ok.mpr ⟨q.2, liftShape_eq_ok.mpr hcolumn, rfl⟩⟩
  unfold ofPoints
  dsimp only
  cases hroom : hasRoom (extent (points.map (·.1))) (extent (points.map (·.2))) with
  | false => simp
  | true =>
    rw [Bool.not_true, if_neg Bool.false_ne_true, bind_eq_ok]
    constructor
    · rintro ⟨pixels, hpixels, h⟩
      obtain rfl := Except.ok.inj h
      exact ⟨rfl, rfl, rfl, (mapM_eq_ok.mp hpixels).imp fun p q => (hpixel _ _ p q).mp⟩
    · obtain ⟨rows, columns, pixels⟩ := m
      rintro ⟨-, rfl, rfl, hpixels⟩
      exact ⟨pixels, mapM_eq_ok.mpr (hpixels.imp fun p q => (hpixel _ _ p q).mpr), rfl⟩

/-- Of items that match one by one, as many are found on one side as on the other. -/
theorem count_of_forall₂ {β γ : Type} [BEq γ] [LawfulBEq γ] {R : β → γ → Prop}
    {p : β → Bool} {y : γ}
    {xs : List β} {ys : List γ} (h : List.Forall₂ R xs ys)
    (hp : ∀ x z, R x z → (z = y ↔ p x = true)) : ys.count y = (xs.filter p).length := by
  induction h with
  | nil => rfl
  | @cons x z xs ys hR _ ih =>
    have hxz := hp x z hR
    rw [List.count_cons, ih]
    cases hx : p x with
    | true => simp [hxz.mpr hx, hx]
    | false =>
      have hne : z ≠ y := by
        intro he
        simp [hxz.mp he] at hx
      simp [hne, hx]

def points (hits : List (Event.Row α)) : List (Int × Int) := hits.map fun h => (h.y, h.x)

theorem points_rows (hits : List (Event.Row α)) : (points hits).map (·.1) = hits.map (·.y) := by
  simp [points]

theorem points_columns (hits : List (Event.Row α)) : (points hits).map (·.2) = hits.map (·.x) := by
  simp [points]

/-- The map of hits shows them. -/
theorem shows_of_ofPoints {m : HitMap} (hne : hits ≠ []) (h : ofPoints (points hits) = .ok m) :
    m.Shows hits := by
  obtain ⟨hroom, hrows, hcolumns, hpixels⟩ := ofPoints_eq_ok.mp h
  rw [points_rows] at hroom hrows hpixels
  rw [points_columns] at hroom hcolumns hpixels
  obtain ⟨htall, hwide, hsize⟩ := hasRoom_iff.mp hroom
  have hheight : extent (hits.map (·.y)) = m.rows := by omega
  have hwidth : extent (hits.map (·.x)) = m.columns := by omega
  rw [hheight, hwidth] at hsize hpixels
  obtain ⟨⟨_, hlast, hrow⟩, -⟩ := extent_spec (hits.map (·.y)) (by simpa using hne)
  obtain ⟨⟨_, hside, hcolumn⟩, -⟩ := extent_spec (hits.map (·.x)) (by simpa using hne)
  obtain ⟨first, hfirst, rfl⟩ := List.mem_map.mp hlast
  obtain ⟨second, hsecond, rfl⟩ := List.mem_map.mp hside
  rw [points, List.forall₂_map_left_iff] at hpixels
  refine ⟨⟨⟨first, hfirst, hrow.trans hheight⟩, ⟨second, hsecond, hcolumn.trans hwidth⟩, ?_,
    hsize⟩, ?_⟩
  · intro hit hhit
    obtain ⟨pixel, -, hy, hx⟩ := exists_of_mem_right hpixels.flip hhit
    exact ⟨wrap_ok_iff.mp ⟨_, hy⟩, wrap_ok_iff.mp ⟨_, hx⟩⟩
  · intro row hr column hc
    rw [count, landing]
    refine count_of_forall₂ hpixels ?_
    rintro hit ⟨y, x⟩ ⟨hy, hx⟩
    obtain ⟨hyr, hy⟩ := wrap_eq_ok.mp hy
    obtain ⟨hxc, hx⟩ := wrap_eq_ok.mp hx
    rw [Prod.mk.injEq, decide_eq_true_iff]
    unfold Lands at hy hx ⊢
    omega

/-- Hits that span a grid have a map. -/
theorem exists_ofPoints {rows columns : Nat} (h : Spans rows columns hits) :
    ∃ m, ofPoints (points hits) = .ok m := by
  obtain ⟨⟨first, hfirst, hrow⟩, ⟨second, hsecond, hcolumn⟩, hinside, hroom⟩ := h
  have hheight : extent (hits.map (·.y)) = rows := by
    apply extent_eq ⟨_, List.mem_map_of_mem hfirst, hrow⟩
    intro i hi
    obtain ⟨hit, hhit, rfl⟩ := List.mem_map.mp hi
    exact (hinside hit hhit).1.2
  have hwidth : extent (hits.map (·.x)) = columns := by
    apply extent_eq ⟨_, List.mem_map_of_mem hsecond, hcolumn⟩
    intro i hi
    obtain ⟨hit, hhit, rfl⟩ := List.mem_map.mp hi
    exact (hinside hit hhit).2.2
  obtain ⟨pixels, hpixels⟩ : ∃ pixels : List (Nat × Nat), List.Forall₂ (fun hit pixel =>
      wrap rows hit.y = .ok pixel.1 ∧ wrap columns hit.x = .ok pixel.2) hits pixels := by
    apply exists_forall₂
    intro hit hhit
    obtain ⟨hy, hx⟩ := hinside hit hhit
    obtain ⟨row, hrow⟩ := wrap_ok_iff.mpr hy
    obtain ⟨column, hcolumn⟩ := wrap_ok_iff.mpr hx
    exact ⟨(row, column), hrow, hcolumn⟩
  refine ⟨⟨rows, columns, pixels⟩, ofPoints_eq_ok.mpr ?_⟩
  rw [points_rows, points_columns, hheight, hwidth, points, List.forall₂_map_left_iff]
  exact ⟨hasRoom_iff.mpr ⟨by omega, by omega, hroom⟩, by simp, by simp, hpixels⟩

end HitMap

theorem hitsOn_eq (filter : Option String) (rs : List (Event.Record α)) (sensorId : Int) :
    hitsOn filter rs sensorId =
      (selectedRows filter rs).flatten.filter (·.sensorId = sensorId) := by
  simp only [hitsOn, selectedRows, List.flatten_eq_flatMap, List.flatMap_assoc, List.flatMap_map,
    id_eq]

/-- The sensors that are shown are those that were hit. -/
theorem mem_sensorIds {sensorId : Int} :
    sensorId ∈ sensorIds (selectedRows filter rs) ↔ hitsOn filter rs sensorId ≠ [] := by
  rw [hitsOn_eq, Ne, List.filter_eq_nil_iff]
  simp only [sensorIds, List.mem_eraseDups, List.mem_flatMap, List.mem_mergeSort, List.mem_map,
    decide_eq_true_eq, Classical.not_forall, Classical.not_not, exists_prop, List.mem_flatten]
  constructor
  · rintro ⟨rows, hrows, r, hr, rfl⟩
    exact ⟨r, ⟨rows, hrows, hr⟩, rfl⟩
  · rintro ⟨r, ⟨rows, hrows, hr⟩, rfl⟩
    exact ⟨rows, hrows, r, hr, rfl⟩

/-- The maps are those of the sensors that were hit, each made of its own hits. -/
theorem hitMaps_eq_ok {maps : List (Int × HitMap)} : hitMaps filter rs = .ok maps ↔
    List.Forall₂ (fun s entry => entry.1 = s ∧
      HitMap.ofPoints (HitMap.points (hitsOn filter rs s)) = .ok entry.2)
      (sensorIds (selectedRows filter rs)) maps := by
  have hpoints (s : Int) : sensorPoints (selectedRows filter rs).flatten s =
      HitMap.points (hitsOn filter rs s) := by
    rw [sensorPoints, ← hitsOn_eq, HitMap.points]
  unfold hitMaps
  dsimp only
  rw [mapM_eq_ok]
  simp only [hpoints, bind_eq_ok]
  constructor
  · intro h
    refine h.imp ?_
    rintro s entry ⟨m, hm, h⟩
    obtain rfl := Except.ok.inj h
    exact ⟨rfl, hm⟩
  · intro h
    refine h.imp ?_
    rintro s ⟨_, m⟩ ⟨rfl, hm⟩
    exact ⟨m, hm, rfl⟩

structure Charts (maps : List (Int × HitMap)) (hits : Int → List (Event.Row α)) : Prop where
  distinct : (Keyed.keys maps).Nodup
  sensors : ∀ s, s ∈ Keyed.keys maps ↔ hits s ≠ []
  shows : ∀ s m, (s, m) ∈ maps → m.Shows (hits s)

theorem charts_of_hitMaps {maps : List (Int × HitMap)} (h : hitMaps filter rs = .ok maps) :
    Charts maps (hitsOn filter rs) := by
  have hall := hitMaps_eq_ok.mp h
  have hkeys : Keyed.keys maps = sensorIds (selectedRows filter rs) := by
    rw [Keyed.keys, ← map_eq_of_forall₂ hall (f := id) fun s entry h => h.1.symm, List.map_id]
  refine ⟨hkeys ▸ nodup_eraseDups _, fun s => hkeys ▸ mem_sensorIds, fun s m hm => ?_⟩
  obtain ⟨_, hs, rfl, hmap⟩ := exists_of_mem_right hall hm
  exact HitMap.shows_of_ofPoints (mem_sensorIds.mp hs) hmap

/-- All maps can be made where those of each sensor's hits can. -/
theorem exists_hitMaps_iff : (∃ maps, hitMaps filter rs = .ok maps) ↔
    ∀ s, hitsOn filter rs s ≠ [] → ∃ rows columns, Spans rows columns (hitsOn filter rs s) := by
  constructor
  · rintro ⟨maps, hmaps⟩ s hs
    have hcharts := charts_of_hitMaps hmaps
    obtain ⟨⟨s, m⟩, hm, rfl⟩ := List.mem_map.mp ((hcharts.sensors s).mpr hs)
    exact ⟨_, _, (hcharts.shows s m hm).spans⟩
  · intro h
    obtain ⟨maps, hmaps⟩ : ∃ maps, List.Forall₂ (fun s (entry : Int × HitMap) => entry.1 = s ∧
        HitMap.ofPoints (HitMap.points (hitsOn filter rs s)) = .ok entry.2)
        (sensorIds (selectedRows filter rs)) maps := by
      apply exists_forall₂
      intro s hs
      obtain ⟨rows, columns, hspans⟩ := h s (mem_sensorIds.mp hs)
      obtain ⟨m, hm⟩ := HitMap.exists_ofPoints hspans
      exact ⟨(s, m), rfl, hm⟩
    exact ⟨maps, hitMaps_eq_ok.mpr hmaps⟩

section Reordered

theorem hitsOn_perm {qs : List (Event.Record α)} (filter : Option String) (h : rs.Perm qs)
    (s : Int) :
    (hitsOn filter rs s).Perm (hitsOn filter qs s) :=
  (h.flatMap_right _).filter _

theorem Spans.perm {rows columns : Nat} (h : hits.Perm others) (hs : Spans rows columns hits) :
    Spans rows columns others := by
  obtain ⟨⟨first, hfirst, hrow⟩, ⟨second, hsecond, hcolumn⟩, hinside, hroom⟩ := hs
  exact ⟨⟨first, h.mem_iff.mp hfirst, hrow⟩, ⟨second, h.mem_iff.mp hsecond, hcolumn⟩,
    fun hit hhit => hinside hit (h.mem_iff.mpr hhit), hroom⟩

theorem HitMap.Shows.perm {m : HitMap} (h : hits.Perm others) (hs : m.Shows hits) :
    m.Shows others := by
  refine ⟨hs.spans.perm h, fun row hrow column hcolumn => ?_⟩
  rw [hs.cells row hrow column hcolumn]
  exact (h.filter _).length_eq

theorem Charts.perm {maps : List (Int × HitMap)} {hits others : Int → List (Event.Row α)}
    (h : ∀ s, (hits s).Perm (others s)) (hc : Charts maps hits) : Charts maps others := by
  refine ⟨hc.distinct, fun s => ?_, fun s m hm => (hc.shows s m hm).perm (h s)⟩
  rw [hc.sensors s, ← List.length_pos_iff, ← List.length_pos_iff, (h s).length_eq]

end Reordered

/-- Without negative indices a pixel shows the hits on itself. -/
theorem HitMap.Shows.exact {m : HitMap} (h : m.Shows hits)
    (hpos : ∀ hit ∈ hits, 0 ≤ hit.y ∧ 0 ≤ hit.x) {row column : Nat} (hrow : row < m.rows)
    (hcolumn : column < m.columns) :
    m.count row column = (hitsAt row column hits).length := by
  rw [h.cells row hrow column hcolumn, landing, hitsAt]
  congr 1
  apply List.filter_congr
  intro hit hhit
  obtain ⟨hy, hx⟩ := hpos hit hhit
  rw [decide_eq_decide]
  unfold Lands
  omega

/-- Hits span one grid at most. -/
theorem Spans.unique {rows columns rows' columns' : Nat} (h : Spans rows columns hits)
    (h' : Spans rows' columns' hits) : rows = rows' ∧ columns = columns' := by
  obtain ⟨a, ha, hrow⟩ := h.lastRow
  obtain ⟨b, hb, hcolumn⟩ := h.lastColumn
  obtain ⟨a', ha', hrow'⟩ := h'.lastRow
  obtain ⟨b', hb', hcolumn'⟩ := h'.lastColumn
  have h₁ := (h'.inside a ha).1
  have h₂ := (h'.inside b hb).2
  have h₃ := (h.inside a' ha').1
  have h₄ := (h.inside b' hb').2
  omega

end PixelTelescope.Run
