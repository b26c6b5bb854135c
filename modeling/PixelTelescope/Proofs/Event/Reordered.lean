import Mathlib.Data.List.Perm.Basic
import PixelTelescope.Proofs.Event.Joins

namespace PixelTelescope.Event

variable {α : Type} {b : Builder} {n n' : Int} {messages messages' : List (Message α)}
  {r r' : Record α} {encoded encoded' : List (Encoded α)} {ms ms' : List (Match α)}

def delivered (messages : List (Message α)) : List (String × Hit α) :=
  messages.flatMap fun m => m.hits.map (m.detector, ·)

def OneCode (messages : List (Message α)) : Prop :=
  ∀ d ∈ delivered messages, ∀ d' ∈ delivered messages, ∀ p ∈ d.2.particles,
    ∀ p' ∈ d'.2.particles, p.track = p'.track → p.pdg = p'.pdg

theorem delivered_eq (messages : List (Message α)) :
    delivered messages = (deliveries messages).map fun d => (d.1.detector, d.2) := by
  simp [delivered, deliveries, List.map_flatMap, Function.comp_def]

def Placed.anywhere (p : Placed α) : Placed α := { p with index := 0 }

def Match.anywhere (m : Match α) : Match α := { m with index := 0 }

theorem place_anywhere (before : List Nat) (encoded : List (Encoded α)) :
    (place before encoded).map Placed.anywhere =
      encoded.map fun e => ⟨e.collection, 0, e.row, e.hit⟩ := by
  induction encoded generalizing before with
  | nil => rfl
  | cons e rest ih => rw [place, List.map_cons, List.map_cons, ih]; rfl

theorem filterMap_anywhere (kept : List (Option (Match α))) :
    (kept.map (Option.map Match.anywhere)).filterMap id =
      (kept.filterMap id).map Match.anywhere := by
  induction kept with
  | nil => rfl
  | cons k rest ih =>
    cases k with
    | none => simpa using ih
    | some m => simpa using ih

theorem collections_reordered (h : encoded.Perm encoded') :
    List.Forall₂ (fun c c' => c.name = c'.name ∧ c.pixelType = c'.pixelType ∧ c.rows.Perm c'.rows)
      (b.collections encoded) (b.collections encoded') := by
  rw [Builder.collections, Builder.collections, List.forall₂_map_left_iff,
    List.forall₂_map_right_iff, List.forall₂_same]
  exact fun _ _ => ⟨rfl, rfl, (h.filter _).map _⟩

section Encoding

variable [Scalar α]

/-- What is stored of a hit follows from the hit and its detector. -/
theorem Builder.Encodes.unique {d : Message α × Hit α} {e e' : Encoded α} (h : b.Encodes d e)
    (h' : b.Encodes d e') : e = e' := by
  obtain ⟨collection, row, hit⟩ := e
  obtain ⟨collection', row', hit'⟩ := e'
  obtain ⟨name, hname, hindex⟩ := h.collection
  obtain ⟨name', hname', hindex'⟩ := h'.collection
  obtain rfl := Except.ok.inj (hname.symm.trans hname')
  obtain rfl : collection = collection' := Except.ok.inj (hindex.symm.trans hindex')
  obtain rfl : hit = hit' := h.hit.trans h'.hit.symm
  have hsensor : row.sensorId = row'.sensorId := Except.ok.inj (h.sensor.symm.trans h'.sensor)
  have hrow : b.encodeHit row.sensorId d.2 = .ok row := h.row
  have hrow' : b.encodeHit row'.sensorId d.2 = .ok row' := h'.row
  rw [hsensor] at hrow
  obtain rfl : row = row' := Except.ok.inj (hrow.symm.trans hrow')
  rfl

theorem encodes_delivered (h : List.Forall₂ b.Encodes (deliveries messages) encoded) :
    List.Forall₂ (fun d e => b.Encodes (⟨d.1, []⟩, d.2) e) (delivered messages) encoded := by
  rw [delivered_eq, List.forall₂_map_left_iff]
  exact h.imp fun _ _ he => ⟨he.hit, he.collection, he.sensor, he.row⟩

/-- The same hits are stored in the same way, in whatever order they come. -/
theorem encoded_perm (hsame : (delivered messages).Perm (delivered messages'))
    (h : List.Forall₂ b.Encodes (deliveries messages) encoded)
    (h' : List.Forall₂ b.Encodes (deliveries messages') encoded') : encoded.Perm encoded' := by
  have hunique : Relator.RightUnique fun (d : String × Hit α) e =>
      b.Encodes (⟨d.1, []⟩, d.2) e := fun _ _ _ he he' => he.unique he'
  exact List.rel_perm_imp hunique (encodes_delivered h) (encodes_delivered h') hsame

theorem Match.ofPlaced_anywhere (p : Placed α) :
    Match.ofPlaced p.anywhere = (Match.ofPlaced p).map (Option.map Match.anywhere) := by
  obtain ⟨collection, index, row, hit⟩ := p
  simp only [Match.ofPlaced, Placed.anywhere]
  cases hit.particles with
  | nil => rfl
  | cons first others =>
    cases hpoints : (first :: others).mapM Match.point with
    | error f => simp only [hpoints]; rfl
    | ok points =>
      simp only [hpoints]
      cases hit.column.amount with
      | error f => rfl
      | ok x =>
        cases hit.row.amount with
        | error f => rfl
        | ok y => rfl

/-- The matches of the same hits differ in nothing but the places of their rows. -/
theorem matches_perm (h : encoded.Perm encoded') {kept kept' : List (Option (Match α))}
    (hkept : (place [] encoded).mapM Match.ofPlaced = .ok kept)
    (hkept' : (place [] encoded').mapM Match.ofPlaced = .ok kept') :
    ((kept.filterMap id).map Match.anywhere).Perm ((kept'.filterMap id).map Match.anywhere) := by
  have hanywhere {encoded : List (Encoded α)} {kept : List (Option (Match α))}
      (hkept : (place [] encoded).mapM Match.ofPlaced = .ok kept) :
      List.Forall₂ (fun p k => Match.ofPlaced p = .ok k)
        (encoded.map fun e => ⟨e.collection, 0, e.row, e.hit⟩)
        (kept.map (Option.map Match.anywhere)) := by
    rw [← place_anywhere [], List.forall₂_map_left_iff, List.forall₂_map_right_iff]
    refine (mapM_eq_ok.mp hkept).imp fun p k hp => ?_
    rw [Match.ofPlaced_anywhere, hp]
    rfl
  rw [← filterMap_anywhere, ← filterMap_anywhere]
  refine List.Perm.filterMap id (List.rel_perm_imp ?_ (hanywhere hkept) (hanywhere hkept')
    (h.map _))
  exact fun p k k' hk hk' => Except.ok.inj (hk.symm.trans hk')

end Encoding

theorem clusterKeys_anywhere (ms : List (Match α)) :
    clusterKeys (ms.map Match.anywhere) = clusterKeys ms := by
  rw [clusterKeys, List.map_map]
  rfl

theorem clusterKeys_perm (h : ms.Perm ms') : (clusterKeys ms).Perm (clusterKeys ms') :=
  eraseDups_perm (h.map Match.key)

theorem onTrack_anywhere (ms : List (Match α)) (track : Int) :
    onTrack (ms.map Match.anywhere) track = onTrack ms track := by
  rw [onTrack, List.flatMap_map]
  rfl

theorem onTrack_perm (h : ms.Perm ms') (track : Int) :
    (onTrack ms track).Perm (onTrack ms' track) :=
  (h.flatMap_right _).filter _

/-- Where all members of a track have one code, the first of them gives it, whichever is first. -/
theorem code_reordered {xs ys : List (Int × Particle α)} (h : xs.Perm ys)
    (hone : ∀ q ∈ xs, ∀ q' ∈ xs, q.2.pdg = q'.2.pdg) :
    xs.head?.map (·.2.pdg) = ys.head?.map (·.2.pdg) := by
  cases xs with
  | nil => rw [h.nil_eq]
  | cons q rest =>
    cases ys with
    | nil => exact absurd h.symm (List.not_perm_nil_cons q rest)
    | cons q' rest' =>
      exact congrArg some (hone q List.mem_cons_self q' (h.mem_iff.mpr List.mem_cons_self))

theorem trackIds_anywhere (ms : List (Match α)) :
    trackIds (ms.map Match.anywhere) = trackIds ms := by
  rw [trackIds, List.flatMap_map]
  rfl

/-- Increasing numbers have one order. -/
theorem trackIds_reordered (h : ms.Perm ms') : trackIds ms = trackIds ms' := by
  have hp : (trackIds ms).Perm (trackIds ms') := by
    refine (List.mergeSort_perm _ _).trans (.trans (eraseDups_perm ?_)
      (List.mergeSort_perm _ _).symm)
    exact h.flatMap_right _
  refine hp.eq_of_pairwise ?_ (trackIds_increasing ms) (trackIds_increasing ms')
  intro a b _ _ hab hba
  omega

/-- The tracks of the same hits are the same, in the same order. -/
theorem trackTable_reordered (h : (ms.map Match.anywhere).Perm (ms'.map Match.anywhere))
    (hone : ∀ track, ∀ q ∈ onTrack ms track, ∀ q' ∈ onTrack ms track, q.2.pdg = q'.2.pdg) :
    trackTable ms = trackTable ms' := by
  have hids := trackIds_reordered h
  rw [trackIds_anywhere, trackIds_anywhere] at hids
  rw [trackTable, trackTable, hids]
  apply List.map_congr_left
  intro track _
  have hmembers := onTrack_perm h track
  rw [onTrack_anywhere, onTrack_anywhere] at hmembers
  simp only [code_reordered hmembers (hone track), hmembers.length_eq,
    (eraseDups_perm (hmembers.map (·.1))).length_eq]

end PixelTelescope.Event
