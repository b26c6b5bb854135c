import PixelTelescope.Run.Group
import PixelTelescope.Proofs.Json.Texts
import PixelTelescope.Proofs.Keyed

namespace PixelTelescope.Run

variable {α : Type}

def Group.applyAll (g : Group α) : List (Change α) → Except StoreFault (Group α)
  | [] => .ok g
  | c :: rest =>
    match g.apply c with
    | .ok g => g.applyAll rest
    | .error fault => .error fault

def storedTable (c : Event.Collection α) : List String × HitTable α :=
  (nameParts c.name, { rows := c.rows, pixelType := some c.pixelType.code })

def storedTruth (t : Event.Truth α) : TruthGroup α :=
  { clusters := some t.clusters, links := some t.links, simHits := some t.simHits,
    tracks := some t.tracks }

def eventAttributes (r : Event.Record α) : List (String × Attribute) :=
  [("run_number", .int r.run), ("event_number", .int r.number), ("event_type", .int r.type),
    ("collections", .text (namesText r))]

def storedGroup (r : Event.Record α) : Group α where
  attributes := eventAttributes r
  collections := some (r.collections.map storedTable)
  truth := r.truth.map storedTruth

def HasPlace (tables : List (List String × HitTable α)) (c : Event.Collection α) : Prop :=
  nameParts c.name ≠ [] ∧ ∀ t ∈ tables, clashes t.1 (nameParts c.name) = false

/-- The records that nothing about themselves keeps out of a file. -/
structure Storable (r : Event.Record α) : Prop where
  run : Attribute.fits r.run = true
  number : Attribute.fits r.number = true
  type : Attribute.fits r.type = true
  named : ∀ c ∈ r.collections, nameParts c.name ≠ []
  apart : r.collections.Pairwise fun a b => clashes (nameParts a.name) (nameParts b.name) = false

theorem clashes_self (a : List String) : clashes a a = true := by
  simp [clashes]

theorem Group.applyAll_append (g : Group α) (xs ys : List (Change α)) :
    g.applyAll (xs ++ ys) =
      match g.applyAll xs with
      | .ok g => g.applyAll ys
      | .error fault => .error fault := by
  induction xs generalizing g with
  | nil => rfl
  | cons c rest ih =>
    simp only [List.cons_append, applyAll]
    cases g.apply c with
    | ok g => exact ih g
    | error fault => rfl

theorem applyAll_collection {g : Group α} {tables : List (List String × HitTable α)}
    (hg : g.collections = some tables) {c : Event.Collection α} (hp : HasPlace tables c) :
    g.applyAll (collectionChanges c) =
      .ok { g with collections := some (tables ++ [storedTable c]) } := by
  obtain ⟨hne, hclash⟩ := hp
  have hany : (tables.any fun t => clashes t.1 (nameParts c.name)) = false :=
    List.any_eq_false.mpr fun t ht => by simp [hclash t ht]
  have hfree : nameParts c.name ∉ Keyed.keys tables := by
    intro hm
    obtain ⟨t, ht, he⟩ := List.mem_map.mp hm
    have hc := hclash t ht
    rw [he, clashes_self] at hc
    contradiction
  simp [collectionChanges, Group.applyAll, Group.apply, Group.addHits, Group.setPixelType, hg, hne,
    hany, Keyed.get?_append_right _ hfree, Keyed.put_append_right _ _ hfree, Keyed.get?, Keyed.put,
    storedTable]

theorem applyAll_collection_refused {g : Group α} {tables : List (List String × HitTable α)}
    (hg : g.collections = some tables) {c : Event.Collection α} (hp : ¬ HasPlace tables c) :
    g.applyAll (collectionChanges c) = .error .refused := by
  have hbad :
      (nameParts c.name = [] || tables.any fun t => clashes t.1 (nameParts c.name)) = true := by
    simp only [HasPlace, Classical.not_and_iff_not_or_not, Classical.not_not] at hp
    simpa [List.any_eq_true] using hp
  simp [collectionChanges, Group.applyAll, Group.apply, Group.addHits, hg, hbad]

theorem applyAll_collections {g g' : Group α} {tables : List (List String × HitTable α)}
    (hg : g.collections = some tables) (cs : List (Event.Collection α)) :
    g.applyAll (cs.flatMap collectionChanges) = .ok g' ↔
      ((∀ c ∈ cs, HasPlace tables c) ∧
        cs.Pairwise fun a b => clashes (nameParts a.name) (nameParts b.name) = false) ∧
      g' = { g with collections := some (tables ++ cs.map storedTable) } := by
  induction cs generalizing g tables with
  | nil =>
    obtain ⟨attributes, collections, truth⟩ := g
    subst hg
    simp only [List.flatMap_nil, Group.applyAll, Except.ok.injEq, List.map_nil, List.append_nil,
      List.not_mem_nil, false_implies, implies_true, List.Pairwise.nil, true_and]
    exact eq_comm
  | cons c cs ih =>
    have hnext (d : Event.Collection α) : HasPlace (tables ++ [storedTable c]) d ↔
        HasPlace tables d ∧ clashes (nameParts c.name) (nameParts d.name) = false := by
      simp only [HasPlace, List.mem_append, List.mem_singleton, or_imp, forall_and, forall_eq,
        storedTable, and_assoc]
    rw [List.flatMap_cons, Group.applyAll_append]
    by_cases hp : HasPlace tables c
    · have hnow :
          ({ g with collections := some (tables ++ [storedTable c]) } : Group α).collections =
            some (tables ++ [storedTable c]) := rfl
      rw [applyAll_collection hg hp]
      simp only
      rw [ih hnow]
      simp only [hnext, List.mem_cons, or_imp, forall_and, forall_eq, hp, true_and,
        List.pairwise_cons, List.map_cons, List.append_assoc, List.singleton_append]
      constructor
      · rintro ⟨⟨⟨h₁, h₂⟩, h₃⟩, rfl⟩
        exact ⟨⟨h₁, h₂, h₃⟩, rfl⟩
      · rintro ⟨⟨h₁, h₂, h₃⟩, rfl⟩
        exact ⟨⟨⟨h₁, h₂⟩, h₃⟩, rfl⟩
    · rw [applyAll_collection_refused hg hp]
      simp [hp]

@[simp] theorem isStorable_int (n : Int) : (Attribute.int n).isStorable = Attribute.fits n := rfl

@[simp] theorem namesText_storable (r : Event.Record α) :
    Attribute.isStorable (.text (namesText r)) = true := by
  have hnul : '\x00' ∉ (namesText r).toList := fun hm =>
    absurd (Json.write_texts_visible _ _ hm) (by decide)
  simpa [Attribute.isStorable] using hnul

def HasNumbers (r : Event.Record α) : Prop :=
  Attribute.fits r.run = true ∧ Attribute.fits r.number = true ∧ Attribute.fits r.type = true

theorem applyAll_heading {r : Event.Record α} {g : Group α} :
    Group.applyAll {} [.attribute "run_number" (.int r.run),
      .attribute "event_number" (.int r.number), .attribute "event_type" (.int r.type),
      .attribute "collections" (.text (namesText r)), .openCollections] = .ok g ↔
    HasNumbers r ∧ g = { attributes := eventAttributes r, collections := some [] } := by
  by_cases hr : Attribute.fits r.run = true
  · by_cases hn : Attribute.fits r.number = true
    · by_cases ht : Attribute.fits r.type = true
      · simp [Group.applyAll, Group.apply, Group.putAttribute, HasNumbers, hr, hn, ht, Keyed.put,
          eventAttributes, eq_comm (a := g)]
      · simp [Group.applyAll, Group.apply, Group.putAttribute, HasNumbers, hr, hn, ht]
    · simp [Group.applyAll, Group.apply, Group.putAttribute, HasNumbers, hr, hn]
  · simp [Group.applyAll, Group.apply, Group.putAttribute, HasNumbers, hr]

theorem applyAll_truth (g : Group α) (truth : Option (Event.Truth α)) :
    g.applyAll ((truth.map truthChanges).getD []) =
      .ok { g with truth := (truth.map storedTruth).or g.truth } := by
  cases truth <;> rfl

/-- The changes of a record all go through for storable records alone, and leave the same group. -/
theorem applyAll_changes {r : Event.Record α} {g : Group α} :
    Group.applyAll {} (changes r) = .ok g ↔ Storable r ∧ g = storedGroup r := by
  rw [changes, Group.applyAll_append, Group.applyAll_append]
  constructor
  · intro h
    split at h
    · rename_i g₁ h₁
      split at h₁
      · rename_i g₀ h₀
        obtain ⟨⟨hrun, hnumber, htype⟩, rfl⟩ := applyAll_heading.mp h₀
        obtain ⟨⟨hplace, hapart⟩, rfl⟩ := (applyAll_collections rfl _).mp h₁
        rw [applyAll_truth] at h
        exact ⟨⟨hrun, hnumber, htype, fun c hc => (hplace c hc).1, hapart⟩,
          by simpa [storedGroup] using h.symm⟩
      · contradiction
    · contradiction
  · rintro ⟨hs, rfl⟩
    have h₀ := applyAll_heading.mpr ⟨⟨hs.run, hs.number, hs.type⟩, rfl⟩
    have hplace : ∀ c ∈ r.collections, HasPlace [] c := fun c hc => ⟨hs.named c hc, by simp⟩
    have h₁ := (applyAll_collections
      (g := { attributes := eventAttributes r, collections := some [] }) rfl r.collections).mpr
      ⟨⟨hplace, hs.apart⟩, rfl⟩
    rw [h₀]
    simp only [h₁, applyAll_truth]
    simp [storedGroup]

end PixelTelescope.Run
