import PixelTelescope.Proofs.Reals
import PixelTelescope.Proofs.Event.Reordered

namespace PixelTelescope.Event

variable {α : Type} [Scalar α] {b : Builder} {n n' : Int} {messages messages' : List (Message α)}
  {r r' : Record α} {placed : List (Placed α)} {ms ms' : List (Match α)}

/-- Terms can be added in any order, as exact numbers can. -/
def SumsCommute (α : Type) [Scalar α] : Prop := ∀ x y z : α, x + y + z = x + z + y

theorem sumsCommute_real : SumsCommute ℝ := fun x y z => add_right_comm x y z

theorem total_perm (hα : SumsCommute α) {xs ys : List α} (h : xs.Perm ys) : total xs = total ys :=
  h.foldl_eq' (fun x _ y _ z => hα z x y) _

theorem centre_perm (hα : SumsCommute α) (h : ms.Perm ms') (coordinate : Match α → α) :
    centre ms coordinate = centre ms' coordinate := by
  rw [centre, centre, total_perm hα (h.map (·.signal)), total_perm hα (h.map coordinate),
    total_perm hα (h.map fun m => m.signal * coordinate m), h.length_eq]

theorem centre_anywhere (ms : List (Match α)) {coordinate : Match α → α}
    (h : ∀ m, coordinate m.anywhere = coordinate m) :
    centre (ms.map Match.anywhere) coordinate = centre ms coordinate := by
  simp only [centre, List.map_map, Function.comp_def, h, List.length_map]
  rfl

def Cluster.unnumbered (c : Cluster α) : Cluster α := { c with id := 0 }

def clusterAt (ms : List (Match α)) (key : Int × Int) : Cluster α :=
  let members := ms.filter fun m => m.key = key
  { id := 0, sensorId := key.1, track := key.2, size := members.length
    signal := total (members.map (·.signal)), x := centre members (·.x), y := centre members (·.y) }

theorem clusterTable_unnumbered (ms : List (Match α)) :
    (clusterTable ms).map Cluster.unnumbered = (clusterKeys ms).map (clusterAt ms) := by
  conv_rhs => rw [← List.zipIdx_map_fst 0 (clusterKeys ms)]
  rw [clusterTable, List.map_map, List.map_map]
  rfl

theorem clusterAt_anywhere (ms : List (Match α)) (key : Int × Int) :
    clusterAt (ms.map Match.anywhere) key = clusterAt ms key := by
  have hfilter : (ms.map Match.anywhere).filter (fun m => m.key = key) =
      (ms.filter fun m => m.key = key).map Match.anywhere := by
    rw [List.filter_map]
    rfl
  simp only [clusterAt, hfilter, List.length_map, List.map_map]
  rw [centre_anywhere _ fun _ => rfl, centre_anywhere _ fun _ => rfl]
  rfl

theorem clusterAt_perm (hα : SumsCommute α) (h : ms.Perm ms') (key : Int × Int) :
    clusterAt ms key = clusterAt ms' key := by
  have hmembers := h.filter fun m => m.key = key
  simp only [clusterAt, hmembers.length_eq, total_perm hα (hmembers.map (·.signal)),
    centre_perm hα hmembers]

/-- Clusters of the same hits differ in nothing but their numbers. -/
theorem clusterTable_reordered (hα : SumsCommute α)
    (h : (ms.map Match.anywhere).Perm (ms'.map Match.anywhere)) :
    ((clusterTable ms).map Cluster.unnumbered).Perm
      ((clusterTable ms').map Cluster.unnumbered) := by
  have hkeys := clusterKeys_perm h
  rw [clusterKeys_anywhere, clusterKeys_anywhere] at hkeys
  have hsame : clusterAt ms = clusterAt ms' := by
    funext key
    rw [← clusterAt_anywhere ms, clusterAt_perm hα h, clusterAt_anywhere]
  rw [clusterTable_unnumbered, clusterTable_unnumbered, hsame]
  exact hkeys.map _

/-- The particles behind matches are those behind the hits. -/
theorem onTrack_delivered {track : Int} {q : Int × Particle α}
    (h : List.Forall₂ Match.Of (placed.filter Placed.matched) ms)
    (hplaced : List.Forall₂ (b.Seats r) (deliveries messages) placed) (hq : q ∈ onTrack ms track) :
    q.2.track = track ∧ ∃ d ∈ delivered messages, q.2 ∈ d.2.particles := by
  obtain ⟨hq, htrack⟩ := List.mem_filter.mp hq
  obtain ⟨m, hm, hq⟩ := List.mem_flatMap.mp hq
  obtain ⟨p, hp, rfl⟩ := List.mem_map.mp hq
  obtain ⟨place, hplace, hof⟩ := exists_of_mem_right h hm
  obtain ⟨d, hd, hseat⟩ := exists_of_mem_right hplaced (List.mem_filter.mp hplace).1
  refine ⟨of_decide_eq_true htrack, (d.1.detector, d.2), ?_, ?_⟩
  · rw [delivered_eq]
    exact List.mem_map_of_mem hd
  · rw [← hseat.hit, hof.particles]
    exact hp

theorem Truth.ofPlaced_tables {t : Truth α} (h : Truth.ofPlaced placed = .ok t) :
    ∃ kept, placed.mapM Match.ofPlaced = .ok kept ∧
      t.clusters = clusterTable (kept.filterMap id) ∧ t.links = linkTable (kept.filterMap id) ∧
      t.tracks = trackTable (kept.filterMap id) := by
  obtain ⟨kept, hits, hkept, -, rfl⟩ := Truth.ofPlaced_parts h
  exact ⟨kept, hkept, rfl, rfl, rfl⟩

/-- What a record says of an event does not depend on the order in which its hits are delivered, nor
on the messages that they come in. Sums are as exact as their numbers: clusters agree where sums
can be taken in any order. -/
theorem content_free_of_order (ht : b.truth = true)
    (hsame : (delivered messages).Perm (delivered messages')) (h : b.build n messages = .ok r)
    (h' : b.build n' messages' = .ok r') :
    List.Forall₂ (fun c c' => c.name = c'.name ∧ c.pixelType = c'.pixelType ∧
        c.rows.Perm c'.rows) r.collections r'.collections ∧
      ∃ t t', r.truth = some t ∧ r'.truth = some t' ∧
        (SumsCommute α →
          (t.clusters.map Cluster.unnumbered).Perm (t'.clusters.map Cluster.unnumbered)) ∧
        t.links.length = t'.links.length ∧ (OneCode messages → t.tracks = t'.tracks) := by
  obtain ⟨encoded, hencodes, hcollections, htruth⟩ := Builder.build_parts h
  obtain ⟨encoded', hencodes', hcollections', htruth'⟩ := Builder.build_parts h'
  obtain ⟨t, hplaced, hsome⟩ := htruth ht
  obtain ⟨t', hplaced', hsome'⟩ := htruth' ht
  obtain ⟨kept, hkept, hclusters, hlinks, htracks⟩ := Truth.ofPlaced_tables hplaced
  obtain ⟨kept', hkept', hclusters', hlinks', htracks'⟩ := Truth.ofPlaced_tables hplaced'
  have hperm := encoded_perm hsame hencodes hencodes'
  have hmatches := matches_perm hperm hkept hkept'
  refine ⟨?_, t, t', hsome, hsome', fun hα => ?_, ?_, fun hone => ?_⟩
  · rw [hcollections, hcollections']
    exact collections_reordered hperm
  · rw [hclusters, hclusters']
    exact clusterTable_reordered hα hmatches
  · have hlength := hmatches.length_eq
    rw [List.length_map, List.length_map] at hlength
    rw [hlinks, hlinks', linkTable, linkTable, List.length_map, List.length_map, hlength]
  · rw [htracks, htracks']
    refine trackTable_reordered hmatches fun track q hq q' hq' => ?_
    have hseats := Builder.seats_of_encodes hcollections hencodes
    obtain ⟨htrack, d, hd, hp⟩ := onTrack_delivered (matches_of hkept) hseats hq
    obtain ⟨htrack', d', hd', hp'⟩ := onTrack_delivered (matches_of hkept) hseats hq'
    exact hone d hd d' hd' q.2 hp q'.2 hp' (htrack.trans htrack'.symm)

noncomputable def pionAt (track : Int) : Particle ℝ := ⟨track, 211, .zeros [3], .zeros [3]⟩

noncomputable def backHit (column : Int) (signal : ℝ) (tracks : List Int) : Hit ℝ :=
  ⟨"back", .whole column, .whole 2, .real signal, .real 0.25, tracks.map pionAt⟩

noncomputable def frontHit : Hit ℝ :=
  ⟨"front", .whole 1, .whole 2, .real 2.5, .real 0.5, [pionAt 2]⟩

noncomputable def inTwoMessages : List (Message ℝ) :=
  [⟨"back", [backHit 1 1.5 [6, 2], backHit 3 (-1.5) [6]]⟩, ⟨"front", [frontHit]⟩]

noncomputable def inThreeMessages : List (Message ℝ) :=
  [⟨"back", [backHit 3 (-1.5) [6]]⟩, ⟨"front", [frontHit]⟩, ⟨"back", [backHit 1 1.5 [6, 2]]⟩]

theorem content_free_of_order_split :
    ∃ r r' t t', twoSensors.build 7 inTwoMessages = .ok r ∧
      twoSensors.build 7 inThreeMessages = .ok r' ∧ r.truth = some t ∧ r'.truth = some t' ∧
      (t.clusters.map Cluster.unnumbered).Perm (t'.clusters.map Cluster.unnumbered) ∧
      t.tracks = t'.tracks ∧ t.links = [⟨0, 0, 0⟩, ⟨0, 1, 0⟩, ⟨0, 2, 1⟩] ∧
      t'.links = [⟨0, 0, 0⟩, ⟨0, 1, 1⟩, ⟨0, 2, 0⟩] := by
  have hlinks : (twoSensors.build 7 inTwoMessages).toOption.bind (fun r => r.truth.map (·.links)) =
      some [⟨0, 0, 0⟩, ⟨0, 1, 0⟩, ⟨0, 2, 1⟩] := by decide +kernel
  have hlinks' : (twoSensors.build 7 inThreeMessages).toOption.bind
      (fun r => r.truth.map (·.links)) = some [⟨0, 0, 0⟩, ⟨0, 1, 1⟩, ⟨0, 2, 0⟩] := by decide +kernel
  have hsame : (delivered inTwoMessages).Perm (delivered inThreeMessages) :=
    (List.perm_append_singleton ("back", backHit 1 1.5 [6, 2])
      [("back", backHit 3 (-1.5) [6]), ("front", frontHit)]).symm
  have hone : OneCode inTwoMessages := by
    have hpion : ∀ d ∈ delivered inTwoMessages, ∀ p ∈ d.2.particles, p.pdg = 211 := by
      simp [delivered, inTwoMessages, backHit, frontHit, pionAt]
    exact fun d hd d' hd' p hp p' hp' _ => (hpion d hd p hp).trans (hpion d' hd' p' hp').symm
  cases hbuild : twoSensors.build 7 inTwoMessages with
  | error f =>
    rw [hbuild] at hlinks
    contradiction
  | ok r =>
    cases hbuild' : twoSensors.build 7 inThreeMessages with
    | error f =>
      rw [hbuild'] at hlinks'
      contradiction
    | ok r' =>
      obtain ⟨-, t, t', ht, ht', hclusters, -, htracks⟩ :=
        content_free_of_order rfl hsame hbuild hbuild'
      simp only [hbuild, hbuild', Except.toOption, Option.bind_some, ht, ht', Option.map_some,
        Option.some.injEq] at hlinks hlinks'
      exact ⟨r, r', t, t', rfl, rfl, ht, ht', hclusters sumsCommute_real, htracks hone, hlinks,
        hlinks'⟩

end PixelTelescope.Event
