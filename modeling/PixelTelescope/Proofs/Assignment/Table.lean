import PixelTelescope.Proofs.Assignment.Rows

namespace PixelTelescope.Assignment

/-- A table that gives every detector one collection and a sensor ID of its own. -/
structure WellFormed (detectors : List String) (table : List (List String)) : Prop where
  lengths : ∀ row ∈ table, row.length = 2 ∨ row.length = 3
  named : ∀ row ∈ table, ∀ name, row[1]? = some name →
    name ≠ "" ∧ '/' ∉ name.toList ∧ name ≠ "." ∧ name ≠ ".."
  /-- In any order. -/
  covers : (table.filterMap (·[0]?)).Perm detectors
  integers : ∀ row ∈ table, ∀ text, row[2]? = some text → ∃ n, Text.readInt text = some n
  apart : (table.zipIdx.map fun row => givenId row.2 row.1).Nodup

structure Fulfils (a : Assignment) (detectors : List String) (table : List (List String)) :
    Prop where
  collections : ∀ d, (∃ name, a.collectionFor d = .ok name) ↔ d ∈ detectors
  sensors : ∀ d, (∃ id, a.sensorIdFor d = .ok id) ↔ d ∈ detectors
  rows : ∀ row index, table[index]? = some row → ∃ d name id, row[0]? = some d ∧
    row[1]? = some name ∧ givenId index row = some id ∧ a.collectionFor d = .ok name ∧
      a.sensorIdFor d = .ok id
  injective : ∀ d d' id, a.sensorIdFor d = .ok id → a.sensorIdFor d' = .ok id → d = d'
  names : a.names = (table.filterMap (·[1]?)).eraseDups
  listed : ∀ d ∈ detectors, ∃ name index, a.collectionFor d = .ok name ∧
    a.collectionIndex name = .ok index
  used : ∀ name ∈ a.names, ∃ d ∈ detectors, a.collectionFor d = .ok name
  source : a.source = .long

def Request.ofTable (detectors : List String) (table : List (List String)) (fallback : String) :
    Request where
  detectors
  rows := some (.list (table.map .texts))
  fallback

variable {detectors : List String} {table : List (List String)} {ps : List Placing} {p : Placing}
  {a : Assignment} {index : Nat} {row : List String}

theorem isCollectionName_iff {name : String} : isCollectionName name = true ↔
    name ≠ "" ∧ '/' ∉ name.toList ∧ name ≠ "." ∧ name ≠ ".." := by
  simp only [isCollectionName, Bool.and_eq_true, bne_iff_ne, ne_eq, Bool.not_eq_true',
    ← Bool.not_eq_true, List.contains_iff_mem, and_assoc]

theorem Tells.rows (h : Tells index table ps) :
    List.Forall₂ (fun row p => ∃ place, Says place row p) table ps := by
  rw [← List.zipIdx_map_fst index table, List.forall₂_map_left_iff]
  exact List.Forall₂.imp (fun row _ hsaid => ⟨row.2, hsaid⟩) h

theorem filterMap_of_forall₂ {β γ δ : Type} {f : β → Option δ} {g : γ → δ} {xs : List β}
    {ys : List γ} (h : List.Forall₂ (fun x y => f x = some (g y)) xs ys) :
    xs.filterMap f = ys.map g := by
  induction h with
  | nil => rfl
  | cons hxy _ ih => rw [List.filterMap_cons_some hxy, ih, List.map_cons]

theorem Tells.firsts (h : Tells index table ps) :
    table.filterMap (·[0]?) = ps.map (·.detector) :=
  filterMap_of_forall₂ (h.rows.imp fun _ _ ⟨_, hsaid⟩ => hsaid.detector)

theorem Tells.seconds (h : Tells index table ps) :
    table.filterMap (·[1]?) = ps.map (·.collection) :=
  filterMap_of_forall₂ (h.rows.imp fun _ _ ⟨_, hsaid⟩ => hsaid.collection)

theorem Tells.ids (h : Tells index table ps) :
    ((table.zipIdx index).map fun row => givenId row.2 row.1) = (ps.map (·.id)).map some := by
  rw [List.map_map]
  exact map_eq_of_forall₂ h fun _ _ hsaid => hsaid.id

theorem Tells.said (h : Tells index table ps) (hrow : row ∈ table) :
    ∃ p ∈ ps, ∃ place, Says place row p :=
  exists_of_mem_right h.rows.flip hrow

/-- Each row of a well-formed table says something. -/
theorem WellFormed.said (h : WellFormed detectors table) (hrow : row ∈ table) :
    ∃ p, Says index row p := by
  have hlength := h.lengths row hrow
  have hsecond : 1 < row.length := by omega
  have hid : ∃ id, givenId index row = some id := by
    unfold givenId
    cases ht : row[2]? with
    | none => exact ⟨index, rfl⟩
    | some text => exact h.integers row hrow text ht
  obtain ⟨id, hid⟩ := hid
  exact ⟨⟨row[0], row[1], id⟩, hlength, List.getElem?_eq_getElem _, List.getElem?_eq_getElem _, hid⟩

theorem wellFormed_iff (hd : detectors.Nodup) : WellFormed detectors table ↔
    ∃ ps, Tells 0 table ps ∧ Sound detectors ps ∧ (ps.map (·.detector)).Perm detectors := by
  constructor
  · intro h
    obtain ⟨ps, htells⟩ : ∃ ps, Tells 0 table ps := by
      refine exists_forall₂ fun row hrow => ?_
      have hmem : row.1 ∈ table := (List.mem_zipIdx hrow).2.2 ▸ List.getElem_mem _
      exact h.said hmem
    have hcovers := htells.firsts ▸ h.covers
    refine ⟨ps, htells, ⟨?_, ?_, hcovers.nodup_iff.mpr hd, ?_⟩, hcovers⟩
    · intro p hp
      obtain ⟨row, hrow, place, hsaid⟩ := exists_of_mem_right htells.rows hp
      exact isCollectionName_iff.mpr (h.named row hrow _ hsaid.collection)
    · intro p hp
      exact hcovers.mem_iff.mp (List.mem_map_of_mem hp)
    · exact List.Nodup.of_map some (htells.ids ▸ h.apart)
  · rintro ⟨ps, htells, hsound, hcovers⟩
    refine ⟨?_, ?_, htells.firsts ▸ hcovers, ?_, ?_⟩
    · intro row hrow
      obtain ⟨p, -, place, hsaid⟩ := htells.said hrow
      exact hsaid.length
    · intro row hrow name hname
      obtain ⟨p, hp, place, hsaid⟩ := htells.said hrow
      obtain rfl : p.collection = name := Option.some.inj (hsaid.collection.symm.trans hname)
      exact isCollectionName_iff.mp (hsound.named p hp)
    · intro row hrow text ht
      obtain ⟨p, -, place, hsaid⟩ := htells.said hrow
      have hid := hsaid.id
      simp only [givenId, ht] at hid
      exact ⟨p.id, hid⟩
    · rw [htells.ids]
      exact hsound.apart.map (fun _ _ => Option.some.inj)

/-- A table is resolved if its rows say placings that are sound and leave no detector out. -/
theorem fromRows_ok_iff (hd : detectors.Nodup) :
    fromRows detectors (.list (table.map .texts)) = .ok a ↔
      ∃ ps, Tells 0 table ps ∧ Sound detectors ps ∧ (ps.map (·.detector)).Perm detectors ∧
        a = chart ps := by
  have hempty : Sound detectors [] := ⟨by simp, by simp, by simp, by simp⟩
  have hnone : empty = chart [] := rfl
  have hcovered (ps : List Placing) :
      (detectors.filter fun d => !Keyed.contains d (chart ps).collections).isEmpty = true ↔
        ∀ d ∈ detectors, d ∈ ps.map (·.detector) := by
    rw [List.isEmpty_iff, List.filter_eq_nil_iff]
    simp [Keyed.contains_iff]
  simp only [fromRows, Value.items?]
  rw [bind_eq_ok, hnone]
  simp only [addRows_ok_iff hempty, List.nil_append]
  constructor
  · rintro ⟨_, ⟨ps, htells, hsound, rfl⟩, h⟩
    split at h
    · rename_i hall
      obtain rfl := Except.ok.inj h
      refine ⟨ps, htells, hsound, ?_, rfl⟩
      refine (List.perm_ext_iff_of_nodup hsound.once hd).mpr fun d => ⟨?_, (hcovered ps).mp hall d⟩
      intro hmem
      obtain ⟨p, hp, rfl⟩ := List.mem_map.mp hmem
      exact hsound.listed p hp
    · contradiction
  · rintro ⟨ps, htells, hsound, hperm, rfl⟩
    refine ⟨chart ps, ⟨ps, htells, hsound, rfl⟩, ?_⟩
    exact if_pos ((hcovered ps).mpr fun d hmem => hperm.mem_iff.mpr hmem)

theorem fromRows_error {f : Failure}
    (h : fromRows detectors (.list (table.map .texts)) = .error f) :
    ∃ fault, f = .configuration fault := by
  simp only [fromRows, Value.items?] at h
  cases hrows : addRows detectors empty 0 (table.map .texts) with
  | error g =>
    rw [hrows] at h
    exact addRows_error (hrows.trans h)
  | ok a =>
    rw [bind_of_ok hrows] at h
    split at h
    · contradiction
    · exact ⟨_, (Except.error.inj h).symm⟩

theorem Tells.place (h : Tells 0 table ps) (hrow : table[index]? = some row) :
    ∃ p ∈ ps, Says index row p := by
  obtain ⟨hi, rfl⟩ := List.getElem?_eq_some_iff.mp hrow
  have hzip : index < table.zipIdx.length := by simpa
  have hps : index < ps.length := by
    rw [← h.length_eq]
    exact hzip
  have hsaid := h.get hzip hps
  simp only [List.get_eq_getElem, List.getElem_zipIdx, Nat.zero_add] at hsaid
  exact ⟨ps[index], List.getElem_mem _, hsaid⟩

theorem Sound.fulfils (h : Sound detectors ps) (htells : Tells 0 table ps)
    (hcovers : (ps.map (·.detector)).Perm detectors) : Fulfils (chart ps) detectors table := by
  have hplaced (d : String) : d ∈ detectors ↔ ∃ p ∈ ps, p.detector = d := by
    rw [← hcovers.mem_iff, List.mem_map]
  refine ⟨?_, ?_, ?_, ?_, ?_, ?_, ?_, rfl⟩
  · intro d
    simp only [h.collectionFor_iff, hplaced]
    grind
  · intro d
    simp only [h.sensorIdFor_iff, hplaced]
    grind
  · intro row index hrow
    obtain ⟨p, hp, hsaid⟩ := htells.place hrow
    exact ⟨p.detector, p.collection, p.id, hsaid.detector, hsaid.collection, hsaid.id,
      h.collectionFor_iff.mpr ⟨p, hp, rfl, rfl⟩, h.sensorIdFor_iff.mpr ⟨p, hp, rfl, rfl⟩⟩
  · intro d d' id hd hd'
    obtain ⟨p, hp, rfl, rfl⟩ := h.sensorIdFor_iff.mp hd
    obtain ⟨q, hq, rfl, hid⟩ := h.sensorIdFor_iff.mp hd'
    rw [List.inj_on_of_nodup_map h.apart hq hp hid]
  · exact congrArg List.eraseDups htells.seconds.symm
  · intro d hd
    obtain ⟨p, hp, rfl⟩ := (hplaced d).mp hd
    have hname : p.collection ∈ (chart ps).names :=
      List.mem_eraseDups.mpr (List.mem_map_of_mem hp)
    obtain ⟨index, hindex⟩ := collectionIndex_of_mem hname
    exact ⟨p.collection, index, h.collectionFor_iff.mpr ⟨p, hp, rfl, rfl⟩, hindex⟩
  · intro name hname
    obtain ⟨p, hp, rfl⟩ := List.mem_map.mp (List.mem_eraseDups.mp hname)
    exact ⟨p.detector, h.listed p hp, h.collectionFor_iff.mpr ⟨p, hp, rfl, rfl⟩⟩

/-- A table is resolved exactly if it is well-formed, and fulfilled then; the configuration is to
blame for any other. -/
theorem resolves_exactly_well_formed (hd : detectors.Nodup) (table : List (List String))
    (fallback : String) :
    ((∃ a, (Request.ofTable detectors table fallback).resolve = .ok a) ↔
      WellFormed detectors table) ∧
    (¬ WellFormed detectors table → ∃ fault,
      (Request.ofTable detectors table fallback).resolve = .error (.configuration fault)) ∧
    ∀ a, (Request.ofTable detectors table fallback).resolve = .ok a →
      Fulfils a detectors table := by
  have hresolve : (Request.ofTable detectors table fallback).resolve =
      fromRows detectors (.list (table.map .texts)) := rfl
  rw [hresolve]
  have hiff : (∃ a, fromRows detectors (.list (table.map .texts)) = .ok a) ↔
      WellFormed detectors table := by
    simp only [fromRows_ok_iff hd, wellFormed_iff hd]
    grind
  refine ⟨hiff, ?_, ?_⟩
  · intro hill
    cases hrows : fromRows detectors (.list (table.map .texts)) with
    | ok a => exact absurd (hiff.mp ⟨a, hrows⟩) hill
    | error f =>
      obtain ⟨fault, rfl⟩ := fromRows_error hrows
      exact ⟨fault, rfl⟩
  · intro a ha
    obtain ⟨ps, htells, hsound, hcovers, rfl⟩ := (fromRows_ok_iff hd).mp ha
    exact hsound.fulfils htells hcovers

/-- An ID that is a row's place can stand beside one that is given. -/
theorem resolves_exactly_well_formed_pair :
    WellFormed ["front", "back"] [["back", "outer", "+7"], ["front", "inner"]] ∧
    ∃ a, (Request.ofTable ["front", "back"] [["back", "outer", "+7"], ["front", "inner"]]
      "hits").resolve = .ok a ∧
      Fulfils a ["front", "back"] [["back", "outer", "+7"], ["front", "inner"]] := by
  have hd : ["front", "back"].Nodup := by decide
  obtain ⟨hiff, -, hfulfils⟩ := resolves_exactly_well_formed hd
    [["back", "outer", "+7"], ["front", "inner"]] "hits"
  have hresolve : (Request.ofTable ["front", "back"] [["back", "outer", "+7"], ["front", "inner"]]
      "hits").resolve = .ok {
        collections := [("back", "outer"), ("front", "inner")]
        sensorIds := [("back", 7), ("front", 1)]
        names := ["outer", "inner"]
        source := .long } := rfl
  exact ⟨hiff.mp ⟨_, hresolve⟩, _, hresolve, hfulfils _ hresolve⟩

end PixelTelescope.Assignment
