import PixelTelescope.Proofs.Assignment.Names
import PixelTelescope.Proofs.Event.Placed
import PixelTelescope.Proofs.Run.Group

namespace PixelTelescope.Run

variable {α : Type}

theorem nameParts_of_valid {name : String} (h : Assignment.isCollectionName name = true) :
    nameParts name = [name] := by
  simp only [Assignment.isCollectionName, Bool.and_eq_true, bne_iff_ne, ne_eq, Bool.not_eq_true',
    ← Bool.not_eq_true, List.contains_iff_mem] at h
  obtain ⟨⟨⟨hne, hslash⟩, hpoint⟩, -⟩ := h
  have hsplit : name.toList.splitOn '/' = [name.toList] := List.splitOn_eq_singleton hslash
  simp [nameParts, hsplit, hne, hpoint]

theorem clashes_of_ne {a b : String} (h : a ≠ b) : clashes [a] [b] = false := by
  have hab : (a == b) = false := by simpa using h
  have hba : (b == a) = false := by simpa using h.symm
  simp [clashes, List.isPrefixOf, hab, hba]

theorem names_collections (b : Event.Builder) (encoded : List (Event.Encoded α)) :
    (b.collections encoded).map (·.name) = b.assignment.names := by
  simp [Event.Builder.collections, Function.comp_def]

variable [Scalar α] {b : Event.Builder} {n : Int} {messages : List (Event.Message α)}
  {r : Event.Record α}

/-- What a record has from its builder, whatever was delivered. -/
theorem build_ok (h : b.build n messages = .ok r) :
    r.run = b.run ∧ r.number = n ∧ r.type = b.eventType ∧
      r.collections.map (·.name) = b.assignment.names := by
  obtain ⟨routes, encoded, hb⟩ := Event.Builder.builds_of_build h
  exact ⟨hb.run, hb.number, hb.type, hb.collections ▸ names_collections b encoded⟩

/-- Numbers that the file takes are all that a built record has to have to be stored. -/
theorem storable_of_build (ha : b.assignment.WellNamed) (hrun : Attribute.fits b.run = true)
    (htype : Attribute.fits b.eventType = true) (hn : Attribute.fits n = true)
    (h : b.build n messages = .ok r) : Storable r := by
  obtain ⟨hr, hnumber, ht, hnames⟩ := build_ok h
  have hvalid : ∀ c ∈ r.collections, nameParts c.name = [c.name] := by
    intro c hc
    apply nameParts_of_valid
    apply ha.valid
    rw [← hnames]
    exact List.mem_map_of_mem hc
  have hdistinct : r.collections.Pairwise fun c d => c.name ≠ d.name := by
    have hd : (r.collections.map (·.name)).Nodup := hnames ▸ ha.distinct
    exact List.pairwise_map.mp hd
  refine ⟨hr ▸ hrun, hnumber ▸ hn, ht ▸ htype, ?_, ?_⟩
  · intro c hc
    simp [hvalid c hc]
  · refine hdistinct.imp_of_mem ?_
    intro c d hc hd hne
    rw [hvalid c hc, hvalid d hd]
    exact clashes_of_ne hne

end PixelTelescope.Run
