import PixelTelescope.Proofs.Writer.Stored

namespace PixelTelescope.Writer

def returned (os : List (Pool.Outcome (Delivery Float) (Event.Record Float))) :
    List (Event.Record Float) :=
  os.filterMap (·.2.toOption)

theorem returned_cons {o : Pool.Outcome (Delivery Float) (Event.Record Float)}
    {r : Event.Record Float} (h : o.2 = .ok r)
    (os : List (Pool.Outcome (Delivery Float) (Event.Record Float))) :
    returned (o :: os) = r :: returned os :=
  List.filterMap_cons_some (congrArg Except.toOption h)

/-- Where no event fails, what comes of the events are records. -/
theorem results_returned {os : List (Pool.Outcome (Delivery Float) (Event.Record Float))}
    (h : ∀ o ∈ os, ∃ r, o.2 = .ok r) : os.map (·.2) = (returned os).map .ok := by
  induction os with
  | nil => rfl
  | cons o rest ih =>
    obtain ⟨⟨r, hr⟩, hrest⟩ := List.forall_mem_cons.mp h
    rw [returned_cons hr, List.map_cons, List.map_cons, hr, ih hrest]

variable {w : Writer} {p : Progress} {path : Path} {rs : List (Event.Record Float)}
  {e : Delivery Float} {r : Event.Record Float} {es : List (Delivery Float)}

theorem write_returns (h : (w.write e.1 e.2 p).result = .ok r) :
    w.builder.build e.1 e.2 = .ok r ∧ (p.desk.put r).result = .ok () := by
  cases hb : w.builder.build e.1 e.2 with
  | error f =>
    rw [(write_unbuilt hb).2] at h
    contradiction
  | ok q =>
    rw [(write_built hb).2] at h
    obtain ⟨u, hput, rfl⟩ := map_eq_ok.mp h
    exact ⟨rfl, hput⟩

theorem outcomes_built {o : Pool.Outcome (Delivery Float) (Event.Record Float)}
    (ho : o ∈ Pool.outcomes (fun e => w.write e.1 e.2) p es) (hr : o.2 = .ok r) :
    w.builder.build o.1.1 o.1.2 = .ok r := by
  induction es generalizing p with
  | nil => simp [Pool.outcomes] at ho
  | cons e rest ih =>
    rcases List.mem_cons.mp ho with rfl | ho
    · exact (write_returns hr).1
    · exact ih ho

/-- Where none fails, the records that come back are those that the events are built into. -/
theorem returned_built
    (h : ∀ o ∈ Pool.outcomes (fun e => w.write e.1 e.2) p es, ∃ r, o.2 = .ok r) :
    es.mapM (fun e => w.builder.build e.1 e.2) =
      .ok (returned (Pool.outcomes (fun e => w.write e.1 e.2) p es)) := by
  rw [mapM_eq_ok]
  induction es generalizing p with
  | nil => exact .nil
  | cons e rest ih =>
    obtain ⟨r, hr⟩ := h (e, (w.write e.1 e.2 p).result) List.mem_cons_self
    have hrest := ih fun o ho => h o (List.mem_cons_of_mem _ ho)
    rw [Pool.outcomes, returned_cons hr]
    exact .cons (write_returns hr).1 hrest

/-- Records have the numbers of their events. -/
theorem numbers_of_built (h : es.mapM (fun e => w.builder.build e.1 e.2) = .ok rs) :
    rs.map (·.number) = es.map (·.1) := by
  refine (map_eq_of_forall₂ (mapM_eq_ok.mp h) fun e r hr => ?_).symm
  exact (Run.build_ok hr).2.1.symm

/-- A run holds a record that came back behind those it held before. -/
theorem Progress.Holds.write_stored (h : p.Holds w path rs)
    (hr : (w.write e.1 e.2 p).result = .ok r) :
    (w.write e.1 e.2 p).state.Holds w path (rs ++ [r]) ∧
      (w.write e.1 e.2 p).state.desk.hazards = p.desk.hazards := by
  obtain ⟨hb, hput⟩ := write_returns hr
  have happend : (p.desk.session.append (p.desk.hazards r.number) r).result = .ok () := by
    rw [h.desk.put_eq] at hput
    exact hput
  obtain ⟨hn, hf⟩ := h.desk.session.append_ok happend
  obtain ⟨-, hholds, hsame⟩ := h.desk.put_stored hn hf
  rw [(write_built hb).1]
  exact ⟨⟨h.file, hholds⟩, hsame⟩

/-- An event that fails leaves a run as it was, if what it began to store is cleared away. -/
theorem Progress.Holds.write_failed (h : p.Holds w path rs) {f : Failure}
    (hc : e.1 ∉ rs.map (·.number) → ∀ r, w.builder.build e.1 e.2 = .ok r →
      (p.desk.hazards e.1).Clears)
    (hf : (w.write e.1 e.2 p).result = .error f) :
    (w.write e.1 e.2 p).state.Holds w path rs ∧
      (w.write e.1 e.2 p).state.desk.hazards = p.desk.hazards := by
  cases hb : w.builder.build e.1 e.2 with
  | error g =>
    rw [(write_unbuilt hb).1]
    exact ⟨h, rfl⟩
  | ok r =>
    obtain ⟨-, hnumber, -⟩ := Run.build_ok hb
    rw [(write_built hb).1]
    by_cases hn : r.number ∈ rs.map (·.number)
    · have hput : (p.desk.put r).state = p.desk.sync p.desk.session := by
        rw [h.desk.put_eq, h.desk.session.append_known _ hn]
      obtain ⟨hholds, hsame⟩ := h.desk.sync h.desk.session rfl
      rw [hput]
      exact ⟨⟨h.file, hholds⟩, hsame⟩
    · have hclears := hnumber ▸ hc (hnumber ▸ hn) r hb
      cases hfault : Run.storeFault (p.desk.hazards r.number) rs.length r with
      | some fault =>
        obtain ⟨-, hholds, hsame⟩ := h.desk.put_failed hclears hn hfault
        exact ⟨⟨h.file, hholds⟩, hsame⟩
      | none =>
        obtain ⟨hok, -, -⟩ := h.desk.put_stored hn hfault
        rw [(write_built hb).2, hok] at hf
        contradiction

/-- A run holds the records that came back, in their order, and nothing else. -/
theorem Progress.Holds.settle_returned (h : p.Holds w path rs)
    (hc : ∀ o ∈ Pool.outcomes (fun e => w.write e.1 e.2) p es, ∀ f, o.2 = .error f →
      (p.desk.hazards o.1.1).Clears) :
    (Pool.settle (fun e => w.write e.1 e.2) p es).Holds w path
        (rs ++ returned (Pool.outcomes (fun e => w.write e.1 e.2) p es)) ∧
      (Pool.settle (fun e => w.write e.1 e.2) p es).desk.hazards = p.desk.hazards := by
  induction es generalizing p rs with
  | nil =>
    rw [Pool.outcomes, returned, List.filterMap_nil, List.append_nil]
    exact ⟨h, rfl⟩
  | cons e rest ih =>
    have hrest := List.forall_mem_cons.mp hc
    rw [Pool.outcomes, returned, List.filterMap_cons]
    cases hr : (w.write e.1 e.2 p).result with
    | ok r =>
      obtain ⟨hholds, hsame⟩ := h.write_stored hr
      rw [← hsame] at hrest
      obtain ⟨hall, hkept⟩ := ih hholds hrest.2
      rw [List.append_assoc] at hall
      exact ⟨hall, hkept.trans hsame⟩
    | error f =>
      obtain ⟨hholds, hsame⟩ := h.write_failed (fun _ _ _ => hrest.1 f hr) hr
      rw [← hsame] at hrest
      obtain ⟨hall, hkept⟩ := ih hholds hrest.2
      exact ⟨hall, hkept.trans hsame⟩

/-- Events that all come back as records are all that a run holds. -/
theorem Progress.Holds.settle_stored (h : p.Holds w path [])
    (hok : ∀ o ∈ Pool.outcomes (fun e => w.write e.1 e.2) p es, ∃ r, o.2 = .ok r) :
    es.mapM (fun e => w.builder.build e.1 e.2) =
        .ok (returned (Pool.outcomes (fun e => w.write e.1 e.2) p es)) ∧
      (Pool.settle (fun e => w.write e.1 e.2) p es).Holds w path
        (returned (Pool.outcomes (fun e => w.write e.1 e.2) p es)) ∧
      (Pool.settle (fun e => w.write e.1 e.2) p es).desk.hazards = p.desk.hazards := by
  refine ⟨returned_built hok, h.settle_returned ?_⟩
  intro o ho f hf
  obtain ⟨r, hr⟩ := hok o ho
  rw [hf] at hr
  contradiction

end PixelTelescope.Writer
