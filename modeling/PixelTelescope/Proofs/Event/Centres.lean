import PixelTelescope.Proofs.Extended
import PixelTelescope.Proofs.Event.Accepted
import PixelTelescope.Proofs.Event.Joins

namespace PixelTelescope

open Extended

theorem Extended.equal_real (x y : ℝ) : Scalar.equal (real x) (real y) = decide (x = y) := rfl

theorem Extended.zero_eq : (0.0 : Extended) = real 0 := by
  rw [real_numeral]
  norm_num

namespace Event

variable {b : Builder} {n : Int} {messages : List (Message Extended)} {r : Record Extended}
  {rows : List (Row Extended)} {ms members : List (Match Extended)}

/-- What the signal of a row counts for; nothing if it is not real. -/
def Row.weight (row : Row Extended) : ℝ :=
  match row.signal with
  | .real s => s
  | _ => 0

/-- The mean of a coordinate, weighted with the signals of the rows; the plain mean where these add
up to nothing. -/
noncomputable def mean (rows : List (Row Extended)) (coordinate : Row Extended → Int) : ℝ :=
  let signal := (rows.map Row.weight).sum
  if signal = 0 then (rows.map fun row => (coordinate row : ℝ)).sum / rows.length
  else (rows.map fun row => row.weight * coordinate row).sum / signal

def Between (rows : List (Row Extended)) (coordinate : Row Extended → Int) (x : ℝ) : Prop :=
  ∃ low ∈ rows, ∃ high ∈ rows,
    (∀ row ∈ rows, coordinate low ≤ coordinate row ∧ coordinate row ≤ coordinate high) ∧
      coordinate low ≤ x ∧ x ≤ coordinate high

/-- A cluster whose centre is the mean of its rows. No quotient by zero is real, so none was
taken. -/
structure Cluster.Centred (c : Cluster Extended) (rows : List (Row Extended)) : Prop where
  linked : rows ≠ []
  signals : ∀ row ∈ rows, row.signal.IsReal
  x : c.x = .real (mean rows (·.x))
  y : c.y = .real (mean rows (·.y))
  within : (∀ row ∈ rows, 0 ≤ row.weight) →
    Between rows (·.x) (mean rows (·.x)) ∧ Between rows (·.y) (mean rows (·.y))

section Mean

variable {coordinate : Row Extended → Int}

theorem weighted_between {weight : Row Extended → ℝ} (hw : ∀ row ∈ rows, 0 ≤ weight row)
    (hpos : 0 < (rows.map weight).sum) :
    Between rows coordinate
      ((rows.map fun row => weight row * coordinate row).sum / (rows.map weight).sum) := by
  have hfinite : {row | row ∈ rows}.Finite := rows.finite_toSet
  have hsome : {row | row ∈ rows}.Nonempty := by
    refine List.exists_mem_of_ne_nil rows ?_
    rintro rfl
    simp at hpos
  obtain ⟨low, hlow, hmin⟩ := Set.exists_min_image _ coordinate hfinite hsome
  obtain ⟨high, hhigh, hmax⟩ := Set.exists_max_image _ coordinate hfinite hsome
  refine ⟨low, hlow, high, hhigh, fun row hrow => ⟨hmin row hrow, hmax row hrow⟩, ?_, ?_⟩
  · rw [le_div_iff₀ hpos, ← List.sum_map_mul_left]
    refine List.sum_le_sum fun row hrow => ?_
    rw [mul_comm]
    exact mul_le_mul_of_nonneg_left (Int.cast_le.mpr (hmin row hrow)) (hw row hrow)
  · rw [div_le_iff₀ hpos, ← List.sum_map_mul_left]
    refine List.sum_le_sum fun row hrow => ?_
    rw [mul_comm (coordinate high : ℝ)]
    exact mul_le_mul_of_nonneg_left (Int.cast_le.mpr (hmax row hrow)) (hw row hrow)

/-- Signals that are not negative leave the mean between the rows: if they add up to nothing, all
rows weigh the same. -/
theorem mean_between (hrows : rows ≠ []) (hw : ∀ row ∈ rows, 0 ≤ row.weight) :
    Between rows coordinate (mean rows coordinate) := by
  unfold mean
  dsimp only
  split
  · have hpos : 0 < (rows.map fun _ => (1 : ℝ)).sum := by
      simpa [List.length_pos_iff] using hrows
    have hplain : Between rows coordinate ((rows.map fun row => 1 * (coordinate row : ℝ)).sum /
        (rows.map fun _ => (1 : ℝ)).sum) := weighted_between (fun _ _ => zero_le_one' ℝ) hpos
    simpa using hplain
  · rename_i hsignal
    have hnonneg : 0 ≤ (rows.map Row.weight).sum :=
      List.sum_nonneg (List.forall_mem_map.mpr hw)
    exact weighted_between hw (lt_of_le_of_ne hnonneg (Ne.symm hsignal))

end Mean

structure Match.Counts (m : Match Extended) (row : Row Extended) : Prop where
  signal : m.signal = .real row.weight
  x : m.x = .real row.x
  y : m.y = .real row.y

theorem total_real (xs : List ℝ) : total (xs.map real) = real xs.sum := by
  have hfold : ∀ s : ℝ, (xs.map real).foldl (· + ·) (real s) = real (s + xs.sum) := by
    induction xs with
    | nil => simp
    | cons x rest ih =>
      intro s
      rw [List.map_cons, List.foldl_cons, List.sum_cons, ← add_assoc]
      exact ih (s + x)
  rw [total, zero_eq, hfold, zero_add]

/-- The centre is the mean of the rows: neither divisor is zero. -/
theorem centre_eq_mean (h : List.Forall₂ Match.Counts members rows) (hrows : rows ≠ [])
    {coordinate : Match Extended → Extended} {column : Row Extended → Int}
    (hcolumn : ∀ m row, Match.Counts m row → coordinate m = real (column row)) :
    centre members coordinate = real (mean rows column) := by
  have hsignals : members.map (·.signal) = (rows.map Row.weight).map real := by
    rw [List.map_map]
    exact map_eq_of_forall₂ h fun _ _ hm => hm.signal
  have hplain : members.map coordinate = (rows.map fun row => (column row : ℝ)).map real := by
    rw [List.map_map]
    exact map_eq_of_forall₂ h hcolumn
  have hweighted : (members.map fun m => m.signal * coordinate m) =
      (rows.map fun row => row.weight * column row).map real := by
    rw [List.map_map]
    refine map_eq_of_forall₂ h fun m row hm => ?_
    rw [hm.signal, hcolumn m row hm]
    rfl
  have hlength : (rows.length : ℝ) ≠ 0 := by simpa using hrows
  rw [centre, hsignals, hplain, hweighted, total_real, total_real, total_real, zero_eq, equal_real,
    h.length_eq, mean]
  simp only [decide_eq_true_eq]
  split
  · exact real_div _ hlength
  · rename_i hsignal
    exact real_div _ hsignal

structure Hit.Exact (h : Hit Extended) : Prop where
  column : ∃ k, h.column = .whole k
  row : ∃ k, h.row = .whole k
  signal : ∃ s, h.signal.toScalar = .ok (real s)

/-- What is kept of such a hit is what its row says. -/
theorem counts_of_ofPlaced {p : Placed Extended} {m : Match Extended} {id : Int}
    (h : Match.ofPlaced p = .ok (some m)) (hexact : p.hit.Exact) (hrow : b.Stores id p.hit p.row) :
    m.Counts p.row ∧ p.row.signal.IsReal := by
  obtain ⟨hx, hy⟩ := pixel_of_ofPlaced h
  obtain ⟨⟨column, hcolumn⟩, ⟨row, hpixel⟩, s, hs⟩ := hexact
  have hcolumn' := hrow.x
  have hpixel' := hrow.y
  have hsignal := Except.ok.inj (hrow.signal.symm.trans hs)
  rw [hcolumn] at hx hcolumn'
  rw [hpixel] at hy hpixel'
  refine ⟨⟨?_, ?_, ?_⟩, by simp [hsignal]⟩
  · rw [(Match.of_kept h).signal, Row.weight, hsignal]
  · rw [← Except.ok.inj hx, ← Except.ok.inj hcolumn']
  · rw [← Except.ok.inj hy, ← Except.ok.inj hpixel']

/-- In exact arithmetic no centre of a cluster is a quotient by zero: it is the mean of the rows
that are linked to the cluster, and lies between them if no signal is negative. -/
theorem centres_are_means (ht : b.truth = true)
    (hexact : ∀ message ∈ messages, ∀ hit ∈ message.hits, hit.Exact)
    (h : b.build n messages = .ok r) :
    ∃ t, r.truth = some t ∧ ∀ c ∈ t.clusters, ∃ rows,
      List.Forall₂ (fun l row => r.row? l.collection l.hit = some row)
        (t.links.filter (·.cluster = c.id)) rows ∧ c.Centred rows := by
  obtain ⟨encoded, hencodes, hcollections, htruth⟩ := Builder.build_parts h
  obtain ⟨t, hplaced, hsome⟩ := htruth ht
  have hseats := Builder.seats_of_encodes hcollections hencodes
  obtain ⟨kept, hits, hkept, -, rfl⟩ := Truth.ofPlaced_parts hplaced
  refine ⟨_, hsome, fun c hc => ?_⟩
  obtain ⟨hlinks, -, hpos, -⟩ := clusterTable_members hc
  obtain ⟨hx, hy⟩ := clusterTable_centre hc
  have hrow : ∀ m ∈ (kept.filterMap id).filter fun m => m.key = (c.sensorId, c.track), ∃ row,
      r.row? m.collection m.index = some row ∧ m.Counts row ∧ row.signal.IsReal := by
    intro m hm
    obtain ⟨p, hp, hof⟩ := exists_placed_of_kept hkept (List.mem_filter.mp hm).1
    obtain ⟨⟨message, hit⟩, hd, hseat⟩ := exists_of_mem_right hseats hp
    obtain ⟨hmessage, hhit⟩ := mem_deliveries.mp hd
    have hstores := Builder.encodeHit_eq_ok.mp hseat.encoded
    refine ⟨p.row, ?_, counts_of_ofPlaced hof ?_ (hseat.hit ▸ hstores)⟩
    · rw [(Match.of_kept hof).collection, (Match.of_kept hof).index]
      exact hseat.row
    · exact hseat.hit ▸ hexact message hmessage hit hhit
  obtain ⟨rows, hrows⟩ := exists_forall₂ hrow
  have hcounts := hrows.imp fun _ _ h => h.2.1
  have hne : rows ≠ [] := List.length_pos_iff.mp (hrows.length_eq ▸ hpos)
  refine ⟨rows, ?_, {
    linked := hne
    signals := ?_
    x := hx.trans (centre_eq_mean hcounts hne fun _ _ hm => hm.x)
    y := hy.trans (centre_eq_mean hcounts hne fun _ _ hm => hm.y)
    within := fun hw => ⟨mean_between hne hw, mean_between hne hw⟩ }⟩
  · rw [hlinks, List.forall₂_map_left_iff]
    exact hrows.imp fun _ _ h => h.1
  · intro row hrow
    obtain ⟨m, -, -, -, hreal⟩ := exists_of_mem_right hrows hrow
    exact hreal

noncomputable def exactHit (detector : String) (column : Int) (signal : ℝ) (track : Int) :
    Hit Extended :=
  ⟨detector, .whole column, .whole 2, .real (real signal), .real (real 0.25),
    [⟨track, 211, .zeros [3], .zeros [3]⟩]⟩

/-- The signals of one cluster cancel; those of the other one do not. -/
noncomputable def cancelling : List (Message Extended) := [
  ⟨"back", [exactHit "back" 1 1.5 6, exactHit "back" 3 (-1.5) 6]⟩,
  ⟨"front", [exactHit "front" 1 2.5 2, exactHit "front" 5 7.5 2]⟩]

theorem cancelling_built : ∃ r t, twoSensors.build 7 cancelling = .ok r ∧ r.truth = some t ∧
    r.collections = [⟨"hits", .timed, [
      ⟨9, 1, 2, real 1.5, some (real 0.25)⟩, ⟨9, 3, 2, real (-1.5), some (real 0.25)⟩,
      ⟨4, 1, 2, real 2.5, some (real 0.25)⟩, ⟨4, 5, 2, real 7.5, some (real 0.25)⟩]⟩] ∧
    t.links = [⟨0, 0, 0⟩, ⟨0, 1, 0⟩, ⟨0, 2, 1⟩, ⟨0, 3, 1⟩] ∧ t.clusters.map (·.id) = [0, 1] :=
  ⟨_, _, rfl, rfl, rfl, rfl, rfl⟩

theorem centres_are_means_cancelling : ∃ r t, twoSensors.build 7 cancelling = .ok r ∧
    r.truth = some t ∧ (∀ c ∈ t.clusters, ∃ rows,
      List.Forall₂ (fun l row => r.row? l.collection l.hit = some row)
        (t.links.filter (·.cluster = c.id)) rows ∧ c.Centred rows) ∧
    ∃ c ∈ t.clusters, c.id = 0 ∧ c.x = real 2 ∧ c.y = real 2 := by
  have hexact : ∀ message ∈ cancelling, ∀ hit ∈ message.hits, hit.Exact := by
    have hhit : ∀ detector column signal track, (exactHit detector column signal track).Exact :=
      fun _ column signal _ => ⟨⟨column, rfl⟩, ⟨2, rfl⟩, ⟨signal, rfl⟩⟩
    simp [cancelling, hhit]
  obtain ⟨r, t, hbuild, ht, hcollections, hlinks, hids⟩ := cancelling_built
  obtain ⟨t', ht', hcentred⟩ := centres_are_means rfl hexact hbuild
  obtain rfl := Option.some.inj (ht'.symm.trans ht)
  obtain ⟨c, hc, hid⟩ : ∃ c ∈ t'.clusters, c.id = 0 := by
    have hmem : 0 ∈ t'.clusters.map (·.id) := by simp [hids]
    simpa using hmem
  refine ⟨r, t', hbuild, ht, hcentred, c, hc, hid, ?_⟩
  obtain ⟨rows, hrows, hmean⟩ := hcentred c hc
  have hcluster : rows = [⟨9, 1, 2, real 1.5, some (real 0.25)⟩,
      ⟨9, 3, 2, real (-1.5), some (real 0.25)⟩] := by
    have hsome := map_eq_of_forall₂ hrows (g := some) fun _ _ h => h
    refine (List.map_injective_iff.mpr (Option.some_injective _) ?_).symm
    rw [← hsome, hlinks, hid]
    simp [Record.row?, hcollections]
  rw [hmean.x, hmean.y, hcluster]
  norm_num [mean, Row.weight]

end Event

end PixelTelescope
