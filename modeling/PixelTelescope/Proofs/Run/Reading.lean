import PixelTelescope.Proofs.Distinct
import PixelTelescope.Proofs.Outcome
import PixelTelescope.Proofs.Run.Append
import PixelTelescope.Proofs.Run.Group
import PixelTelescope.Run.Reader

namespace PixelTelescope.Run

variable {α : Type}

theorem readPixelType_code (t : PixelType) : readPixelType t.code = .ok t := by
  cases t <;> rfl

theorem namesOf_write (names : List String) :
    namesOf (Json.write (Value.texts names)) = .ok names := by
  rw [namesOf, Json.read_write_texts]
  simp only [Value.texts]
  rw [List.mapM_map]
  refine (mapM_ok (g := id) ?_).trans (by rw [List.map_id])
  intro s _
  rfl

/-- Whatever characters the names of the collections are made of, the text that lists them in a file
holds no control character and no quote that could end a name early, and reads as the same names in
the same order; so no two lists have one text. -/
theorem collection_names_decode (names : List String) :
    (∃ bodies : List (List Char), bodies.length = names.length ∧
      (Json.write (Value.texts names)).toList =
        '[' :: [','].intercalate (bodies.map fun body => '"' :: body ++ ['"']) ++ [']'] ∧
      ∀ body ∈ bodies, ∀ rest, Json.untilQuote (body ++ '"' :: rest) = some (body, rest)) ∧
      (∀ c ∈ (Json.write (Value.texts names)).toList, 0x20 ≤ c.toNat) ∧
      Json.read (Json.write (Value.texts names)) = some (Value.texts names) ∧
      namesOf (Json.write (Value.texts names)) = .ok names ∧
      (∀ others, Json.write (Value.texts others) = Json.write (Value.texts names) ↔
        others = names) ∧
      ∀ r : Event.Record α, Change.attribute "collections"
        (.text (Json.write (Value.texts (r.collections.map (·.name))))) ∈ changes r := by
  refine ⟨⟨names.map fun s => s.toList.flatMap Json.escapedChar, List.length_map _, ?_, ?_⟩,
    Json.write_texts_visible names, Json.read_write_texts names, namesOf_write names, ?_, ?_⟩
  · rw [Json.toList_write_texts, Json.textItems, List.map_map]
    rfl
  · intro body hbody rest
    obtain ⟨s, -, rfl⟩ := List.mem_map.mp hbody
    exact Json.untilQuote_escaped s.toList rest
  · intro others
    exact ⟨Json.write_texts_injective, fun h => by rw [h]⟩
  · intro r
    simp [changes, namesText]

theorem Storable.nodup {r : Event.Record α} (h : Storable r) :
    (Keyed.keys (r.collections.map storedTable)).Nodup := by
  rw [Keyed.keys, List.map_map, List.Nodup, List.pairwise_map]
  refine h.apart.imp ?_
  intro a b hab he
  simp only [Function.comp_apply, storedTable] at he
  rw [he, clashes_self] at hab
  contradiction

theorem readCollection_stored {r : Event.Record α} (h : Storable r) {c : Event.Collection α}
    (hc : c ∈ r.collections) :
    readCollection (r.collections.map storedTable) c.name = .ok c := by
  have hm : (nameParts c.name, (storedTable c).2) ∈ r.collections.map storedTable :=
    List.mem_map.mpr ⟨c, hc, rfl⟩
  rw [readCollection, Keyed.get?_of_mem h.nodup hm]
  simp only [orMissing, storedTable, bind, Except.bind, readPixelType_code]
  rfl

theorem readCollections_stored {r : Event.Record α} (h : Storable r) :
    (r.collections.map (·.name)).mapM (readCollection (r.collections.map storedTable)) =
      .ok r.collections := by
  have hall :
      r.collections.mapM (fun c => readCollection (r.collections.map storedTable) c.name) =
        .ok (r.collections.map id) :=
    mapM_ok fun c hc => readCollection_stored h hc
  rw [List.map_id] at hall
  rw [List.mapM_map]
  exact hall

/-- A stored event reads as the record that it was made from. -/
theorem record_storedGroup {r : Event.Record α} (h : Storable r) :
    (storedGroup r).record = .ok r := by
  have hcollections := readCollections_stored h
  obtain ⟨run, number, type, collections, truth⟩ := r
  have hnames : namesOf (namesText ⟨run, number, type, collections, truth⟩) =
      .ok (collections.map (·.name)) := namesOf_write _
  simp only [Group.record, storedGroup, eventAttributes, textAttribute, intAttribute, Keyed.get?,
    orMissing, bind, Except.bind, String.reduceEq, ↓reduceIte, hnames, hcollections]
  cases truth <;> rfl

def byNumber (rs : List (Event.Record α)) : List (Event.Record α) :=
  rs.mergeSort fun a b => a.number ≤ b.number

theorem byNumber_perm (rs : List (Event.Record α)) : (byNumber rs).Perm rs := List.mergeSort_perm ..

theorem byNumber_pairwise {rs : List (Event.Record α)} (hd : (rs.map (·.number)).Nodup) :
    (byNumber rs).Pairwise fun a b => a.number < b.number := mergeSort_increasing hd

/-- Numbers that differ leave one order for the events. -/
theorem byNumber_eq_of_perm {rs qs : List (Event.Record α)} (hd : (rs.map (·.number)).Nodup)
    (h : rs.Perm qs) : byNumber rs = byNumber qs := by
  have hp : (byNumber rs).Perm (byNumber qs) :=
    (byNumber_perm rs).trans (h.trans (byNumber_perm qs).symm)
  have hd' : (qs.map (·.number)).Nodup := (h.map (·.number)).nodup_iff.mp hd
  refine hp.eq_of_pairwise ?_ (byNumber_pairwise hd) (byNumber_pairwise hd')
  intro a b _ _ hab hba
  omega

variable {t : Title} {rs : List (Event.Record α)}

theorem header_storedFile (t : Title) (rs : List (Event.Record α)) :
    (storedFile t rs).header = .ok ⟨t.run, t.detector, rs.length, formatVersion⟩ := by
  have hother : ∀ name, name ≠ "n_events" → Keyed.get? name (t.attributes rs.length) =
      Keyed.get? name (headerAttributes t.run t.detector t.config) :=
    fun name hname => Keyed.get?_put_of_ne _ _ hname
  simp only [File.header, intAttribute, textAttribute, storedFile, t.get?_count,
    hother "run_number" (by decide), hother "detector_name" (by decide),
    hother "format_version" (by decide)]
  rfl

theorem event_storedFile (hd : (rs.map (·.number)).Nodup) (hs : ∀ r ∈ rs, Storable r)
    (path : String) {r : Event.Record α} (hr : r ∈ rs) :
    (storedFile t rs).event path r.number = .ok r := by
  have hkeys : (Keyed.keys (rs.map entry)).Nodup := by
    rw [Session.keys_entries, List.Nodup, List.pairwise_map]
    exact (List.pairwise_map.mp hd).imp fun hne he => hne (eventKey_injective he)
  have hm : (eventKey r.number, storedGroup r) ∈ rs.map entry := List.mem_map.mpr ⟨r, hr, rfl⟩
  simp [File.event, storedFile, orMissing, bind, Except.bind, Keyed.get?_of_mem hkeys hm,
    record_storedGroup (hs r hr)]

theorem no_event_storedFile (path : String) {n : Int} (hn : n ∉ rs.map (·.number)) :
    (storedFile t rs).event path n = .error (.noEvent n path) := by
  have hnone : Keyed.get? (eventKey n) (rs.map entry) = none :=
    Keyed.get?_eq_none_iff.mpr fun hm => hn (Session.eventKey_mem_entries.mp hm)
  simp [File.event, storedFile, orMissing, bind, Except.bind, hnone]

theorem committed_storedFile (hs : ∀ r ∈ rs, Storable r) :
    (storedFile t rs).committed = .ok ((byNumber rs).map fun r => (r.number, storedGroup r)) := by
  have hall : (rs.map entry).filter (fun entry => !isStaging entry.1) = rs.map entry := by
    apply List.filter_eq_self.mpr
    intro pair hp
    obtain ⟨r, -, rfl⟩ := List.mem_map.mp hp
    simp [entry, isStaging_eventKey]
  have hnumbered : (rs.map entry).mapM File.numbered =
      .ok (rs.map fun r => (r.number, storedGroup r)) := by
    rw [List.mapM_map]
    apply mapM_ok
    intro r hr
    simp [Function.comp_apply, File.numbered, entry,
      readInt_eventKey (length_keyDigits_of_fits (hs r hr).number)]
  simp only [File.committed, storedFile, orMissing, bind, Except.bind, hall, hnumbered]
  rw [byNumber, List.map_mergeSort (s := fun a b => decide (a.1 ≤ b.1))]
  · rfl
  · intro a _ b _
    rfl

/-- All events are read, whatever the order they were stored in. -/
theorem records_storedFile (hs : ∀ r ∈ rs, Storable r) :
    (storedFile t rs).records = .ok (byNumber rs) := by
  rw [File.records, committed_storedFile hs]
  simp only [bind, Except.bind]
  rw [List.mapM_map]
  refine (mapM_ok (g := id) ?_).trans (by rw [List.map_id])
  intro r hr
  exact record_storedGroup (hs r ((byNumber_perm rs).mem_iff.mp hr))

end PixelTelescope.Run
