import PixelTelescope.Proofs.Writer.Write

namespace PixelTelescope.Writer

structure Marks (w : Writer) (hazards : Int → Run.Hazard Float) (F : Delivery Float → Bool)
    (es : List (Delivery Float)) : Prop where
  fails : ∀ e ∈ es, F e = true → w.Fails hazards e
  delivers : ∀ e ∈ es, F e = false → w.Delivers hazards e

theorem Marks.subset {w : Writer} {hazards : Int → Run.Hazard Float} {F : Delivery Float → Bool}
    {es all : List (Delivery Float)} (h : w.Marks hazards F all) (hs : es ⊆ all) :
    w.Marks hazards F es :=
  ⟨fun e he => h.fails e (hs he), fun e he => h.delivers e (hs he)⟩

def records (w : Writer) (F : Delivery Float → Bool) (es : List (Delivery Float)) :
    List (Event.Record Float) :=
  (es.filter fun e => !F e).filterMap fun e => (w.builder.build e.1 e.2).toOption

variable {w : Writer} {p : Progress} {path : Path} {rs : List (Event.Record Float)}
  {F : Delivery Float → Bool} {e : Delivery Float} {es : List (Delivery Float)}

theorem records_cons (w : Writer) (F : Delivery Float → Bool) (e : Delivery Float)
    (es : List (Delivery Float)) : w.records F (e :: es) = w.records F [e] ++ w.records F es := by
  rw [records, records, records, ← List.filterMap_append, ← List.filter_append,
    List.singleton_append]

theorem records_perm {es' : List (Delivery Float)} (h : es.Perm es') :
    (w.records F es).Perm (w.records F es') := (h.filter _).filterMap _

theorem mem_records {r : Event.Record Float} : r ∈ w.records F es ↔
    ∃ e ∈ es, F e = false ∧ w.builder.build e.1 e.2 = .ok r := by
  simp only [records, List.mem_filterMap, List.mem_filter, Bool.not_eq_true', and_assoc]
  refine exists_congr fun e => and_congr_right fun _ => and_congr_right fun _ => ?_
  cases w.builder.build e.1 e.2 <;> simp [Except.toOption]

theorem number_mem_of_mem_records {r : Event.Record Float} (h : r ∈ w.records F es) :
    r.number ∈ es.map (·.1) := by
  obtain ⟨e, he, -, hb⟩ := mem_records.mp h
  rw [(Run.build_ok hb).2.1]
  exact List.mem_map_of_mem he

/-- Events that all deliver are stored under their numbers. -/
theorem numbers_records {hazards : Int → Run.Hazard Float}
    (hm : w.Marks hazards (fun _ => false) es) :
    (w.records (fun _ => false) es).map (·.number) = es.map (·.1) := by
  induction es with
  | nil => rfl
  | cons e rest ih =>
    obtain ⟨r, hb, -⟩ := hm.delivers e List.mem_cons_self rfl
    have hone : w.records (fun _ => false) [e] = [r] := by simp [records, hb, Except.toOption]
    rw [records_cons, hone, List.map_append, ih (hm.subset (List.subset_cons_self ..)),
      List.map_singleton, (Run.build_ok hb).2.1, List.map_cons, List.singleton_append]

theorem length_records {hazards : Int → Run.Hazard Float}
    (hm : w.Marks hazards (fun _ => false) es) :
    (w.records (fun _ => false) es).length = es.length := by
  simpa using congrArg List.length (numbers_records hm)

/-- An event is added to a run, or leaves it as it was. -/
theorem Progress.Holds.write (h : p.Holds w path rs) (hn : e.1 ∉ rs.map (·.number))
    (hc : F e = true → (p.desk.hazards e.1).Clears) (hm : w.Marks p.desk.hazards F [e]) :
    (w.write e.1 e.2 p).state.Holds w path (rs ++ w.records F [e]) ∧
      (w.write e.1 e.2 p).state.desk.hazards = p.desk.hazards := by
  cases hb : w.builder.build e.1 e.2 with
  | error f =>
    have hnone : w.records F [e] = [] := by
      cases hF : F e <;> simp [records, hF, hb, Except.toOption]
    rw [(write_unbuilt hb).1, hnone, List.append_nil]
    exact ⟨h, rfl⟩
  | ok r =>
    obtain ⟨-, hnumber, -⟩ := Run.build_ok hb
    rw [(write_built hb).1]
    rw [← hnumber] at hn hc
    cases hF : F e with
    | true =>
      have hfails := hm.fails e (by simp) hF r hb rs.length
      obtain ⟨fault, hf⟩ := Option.ne_none_iff_exists'.mp hfails
      rw [← hnumber] at hf
      obtain ⟨-, hholds, hsame⟩ := h.desk.put_failed (hc hF) hn hf
      have hnone : w.records F [e] = [] := by simp [records, hF]
      rw [hnone, List.append_nil]
      exact ⟨⟨h.file, hholds⟩, hsame⟩
    | false =>
      obtain ⟨q, hq, hf⟩ := hm.delivers e (by simp) hF
      obtain rfl : r = q := Except.ok.inj (hb.symm.trans hq)
      have hfree := hf rs.length
      rw [← hnumber] at hfree
      obtain ⟨-, hholds, hsame⟩ := h.desk.put_stored hn hfree
      have hone : w.records F [e] = [r] := by simp [records, hF, hb, Except.toOption]
      rw [hone]
      exact ⟨⟨h.file, hholds⟩, hsame⟩

/-- A run holds the records of the events that it was given, but for those that failed. -/
theorem Progress.Holds.settle (h : p.Holds w path rs)
    (hnew : ∀ e ∈ es, e.1 ∉ rs.map (·.number)) (hd : (es.map (·.1)).Nodup)
    (hc : ∀ e ∈ es, F e = true → (p.desk.hazards e.1).Clears)
    (hm : w.Marks p.desk.hazards F es) :
    (Pool.settle (fun e => w.write e.1 e.2) p es).Holds w path (rs ++ w.records F es) := by
  induction es generalizing p rs with
  | nil => simpa [Pool.settle, records] using h
  | cons e rest ih =>
    rw [List.map_cons, List.nodup_cons] at hd
    obtain ⟨hholds, hsame⟩ := h.write (F := F) (hnew e List.mem_cons_self)
      (hc e List.mem_cons_self) (hm.subset (by simp))
    rw [records_cons, ← List.append_assoc]
    refine ih hholds ?_ hd.2 ?_ ?_
    · intro q hq hmem
      rw [List.map_append, List.mem_append] at hmem
      rcases hmem with hmem | hmem
      · exact hnew q (List.mem_cons_of_mem _ hq) hmem
      · obtain ⟨r, hr, he⟩ := List.mem_map.mp hmem
        have hone := number_mem_of_mem_records hr
        rw [he, List.map_singleton, List.mem_singleton] at hone
        exact hd.1 (hone ▸ List.mem_map_of_mem hq)
    · rw [hsame]
      exact fun q hq => hc q (List.mem_cons_of_mem _ hq)
    · rw [hsame]
      exact hm.subset (List.subset_cons_self ..)

def Progress.header (p : Progress) (name : String) : Except Failure Run.Header := do
  (← Run.readRun p.desk.disk name).header

def Progress.events (p : Progress) (name : String) :
    Except Failure (List (Event.Record Float)) := do
  (← Run.readRun p.desk.disk name).records

/-- What a run tells of itself once these records are in it: the session counts them, and the file
has them in the order of their numbers. -/
structure Progress.Shows (p : Progress) (w : Writer) (path : Path)
    (rs : List (Event.Record Float)) : Prop where
  count : p.desk.session.count = rs.length
  sorted : rs.Pairwise fun a b => a.number < b.number
  header : ∀ name, path.SpelledBy name → p.header name =
    .ok ⟨w.run, w.settings.detectorName, rs.length, Run.formatVersion⟩
  events : ∀ name, path.SpelledBy name → p.events name = .ok rs

theorem shows_of_find (hcount : p.desk.session.count = rs.length)
    (hdisk : p.desk.disk.find path = .ok (.file (.run (Run.storedFile w.title rs))))
    (hd : (rs.map (·.number)).Nodup) (hs : ∀ r ∈ rs, Run.Storable r) :
    p.Shows w path (Run.byNumber rs) := by
  have hlength : (Run.byNumber rs).length = rs.length := (Run.byNumber_perm rs).length_eq
  refine ⟨hcount.trans hlength.symm, Run.byNumber_pairwise hd, ?_, ?_⟩
  · intro name hname
    rw [Progress.header, Run.readRun_of_find hdisk hname, hlength]
    exact Run.header_storedFile w.title rs
  · intro name hname
    rw [Progress.events, Run.readRun_of_find hdisk hname]
    exact Run.records_storedFile hs

theorem Progress.Holds.shows (h : p.Holds w path rs) : p.Shows w path (Run.byNumber rs) :=
  shows_of_find h.desk.session.count (h.desk.session.file ▸ h.desk.disk) h.desk.session.distinct
    h.desk.session.storable

theorem Progress.Holds.spelledBy (h : p.Holds w path rs) : path.SpelledBy path.text :=
  Disk.spelledBy_of_find h.desk.normal h.desk.disk

/-- A run that is given up closes its file. -/
theorem Progress.Holds.abort_closes (h : p.Holds w path rs) :
    (Writer.abort p).result = .ok rs.length ∧
      (Writer.abort p).state = { p with desk := p.desk.close.state } ∧
      p.desk.close.state.Closed w.title path rs := by
  have habort : Writer.abort p = onDesk Run.Desk.close p := by
    simp only [Writer.abort, h.desk.session.stage]
  obtain ⟨hresult, hclosed⟩ := h.desk.close
  rw [habort]
  exact ⟨hresult, rfl, hclosed⟩

/-- A run that is given up tells how many events it keeps. -/
theorem Progress.Holds.abort (h : p.Holds w path rs) :
    (Writer.abort p).result = .ok rs.length ∧
      (Writer.abort p).state.Shows w path (Run.byNumber rs) := by
  obtain ⟨hresult, hstate, hclosed⟩ := h.abort_closes
  rw [hstate]
  exact ⟨hresult, shows_of_find hclosed.count hclosed.disk hclosed.distinct hclosed.storable⟩

end PixelTelescope.Writer
