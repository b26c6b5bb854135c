import PixelTelescope.Writer.Process
import PixelTelescope.Proofs.Pool.Batches
import PixelTelescope.Proofs.Pool.Serial
import PixelTelescope.Proofs.Run.RoundTrip
import PixelTelescope.Proofs.Writer.Stored

namespace PixelTelescope.Writer

variable {w : Writer} {p : Progress} {path : Path} {source : Source (Delivery Float)}
  {processors : Option Int} {workers : Workers} {threads : Nat}

theorem process_eq (h : p.desk.session.stage = .open) (processors : Option Int) (workers : Workers)
    (progress : Bool) (source : Source (Delivery Float)) :
    (w.process processors (.ok workers) progress source p).state =
        (Pool.process processors workers progress (fun e => w.write e.1 e.2) source p).state ∧
      (w.process processors (.ok workers) progress source p).result =
        (Pool.process processors workers progress (fun e => w.write e.1 e.2) source p).result := by
  simp only [process, h]
  exact Act.bind_ok (a := Act.ofResult (.ok workers)) (s := p) rfl

/-- What comes of an event that delivers or fails, in any order of the events. -/
theorem Progress.Holds.outcome (h : p.Holds w path []) {es : List (Delivery Float)}
    (hd : (es.map (·.1)).Nodup) {F : Delivery Float → Bool} (hm : w.Marks p.desk.hazards F es)
    {o : Pool.Outcome (Delivery Float) (Event.Record Float)}
    (ho : o ∈ Pool.outcomes (fun e => w.write e.1 e.2) p es) :
    (F o.1 = true → ∃ f, o.2 = .error f ∧ w.Raises p.desk.hazards path.text o.1 f) ∧
      (F o.1 = false → ∃ r, o.2 = .ok r) := by
  have hmem := Pool.mem_of_mem_outcomes ho
  obtain ⟨hfails, hdelivers⟩ := h.carries.outcomes (w := w) (by simp) hd o ho
  exact ⟨fun hF => hfails (hm.fails _ hmem hF), fun hF => hdelivers (hm.delivers _ hmem hF)⟩

theorem nodup_of_subperm {es all : List (Delivery Float)} (h : es.Subperm all)
    (hd : (all.map (·.1)).Nodup) : (es.map (·.1)).Nodup := by
  obtain ⟨found, hperm, hsub⟩ := h
  exact (hperm.map (·.1)).nodup_iff.mp (hd.sublist (hsub.map _))

/-- Without threads, events that all deliver are handled one after the other and counted. -/
theorem Progress.Holds.serial_settles (h : p.Holds w path []) (source : Source (Delivery Float))
    (hworkers : workers.resolve processors = 0) (hfailure : source.failure = none)
    (hd : (source.events.map (·.1)).Nodup)
    (hm : w.Marks p.desk.hazards (fun _ => false) source.events) :
    (w.process processors (.ok workers) false source p).result = .ok source.events.length ∧
      (w.process processors (.ok workers) false source p).state =
        Pool.settle (fun e => w.write e.1 e.2) p source.events := by
  obtain ⟨hs, hr⟩ := process_eq (w := w) h.desk.session.stage processors workers false source
  rw [Pool.process_serial hworkers] at hs hr
  obtain ⟨hstate, hresult⟩ := Pool.inOrder_ok (s := p) hfailure
    fun o ho => (h.outcome hd hm ho).2 rfl
  exact ⟨hr.trans hresult, hs.trans hstate⟩

/-- Without threads, events that all deliver are all stored, in their order. -/
theorem Progress.Holds.serial (h : p.Holds w path []) (source : Source (Delivery Float))
    (hworkers : workers.resolve processors = 0) (hfailure : source.failure = none)
    (hd : (source.events.map (·.1)).Nodup)
    (hm : w.Marks p.desk.hazards (fun _ => false) source.events) :
    (w.process processors (.ok workers) false source p).result = .ok source.events.length ∧
      (w.process processors (.ok workers) false source p).state.Holds w path
        (w.records (fun _ => false) source.events) := by
  obtain ⟨hresult, hstate⟩ := h.serial_settles source hworkers hfailure hd hm
  have hholds := h.settle (F := fun _ => false) (by simp) hd (by simp) hm
  rw [hstate]
  exact ⟨hresult, by simpa using hholds⟩

/-- What holds on every schedule holds of the run that the writer makes. -/
theorem process_of_every_schedule {P : Except Failure Nat → Progress → Prop}
    (h : Pool.OnEverySchedule threads false (fun e => w.write e.1 e.2) source p P)
    (hopen : p.desk.session.stage = .open) (hthreads : 0 < threads)
    (hworkers : workers.resolve processors = threads) :
    P (w.process processors (.ok workers) false source p).result
      (w.process processors (.ok workers) false source p).state := by
  obtain ⟨hs, hr⟩ := process_eq (w := w) hopen processors workers false source
  rw [hs, hr, Pool.process_threaded hthreads hworkers]
  exact h.threaded hthreads

variable {settings : Config.WriterSection} {registry : Geometry.Registry Float}
  {outputDir : String} {run : Int} {configText : Option String} {before : Progress}

/-- Threads leave what a run without threads leaves, however they take turns: the count, the header
and the events in the order in which they are read. -/
theorem threaded_run_equals_serial_run (source : Source (Delivery Float))
    (hcreate : (create settings registry outputDir run configText).result = .ok w)
    (hstart : (w.start before).result = .ok ())
    (hthreads : 0 < threads) (hworkers : workers.resolve processors = threads)
    (hfailure : source.failure = none) (hdistinct : (source.events.map (·.1)).Nodup)
    (hdelivers : ∀ e ∈ source.events, w.Delivers (w.start before).state.desk.hazards e) :
    ∃ path rs, (w.start before).state.eventFile = some path ∧ path.SpelledBy path.text ∧
      (∀ r, r ∈ rs ↔ ∃ e ∈ source.events, w.builder.build e.1 e.2 = .ok r) ∧
      rs.length = source.events.length ∧
      ((w.process processors (.ok (.count 0)) false source (w.start before).state).result =
          .ok source.events.length ∧
        (w.process processors (.ok (.count 0)) false source (w.start before).state).state.Shows
          w path rs) ∧
      Pool.OnEverySchedule threads false (fun e => w.write e.1 e.2) source (w.start before).state
        (fun result q => result = .ok source.events.length ∧ q.Shows w path rs) ∧
      ((w.process processors (.ok workers) false source (w.start before).state).result =
          .ok source.events.length ∧
        (w.process processors (.ok workers) false source (w.start before).state).state.Shows
          w path rs) := by
  obtain ⟨path, h⟩ := start_holds (create_outputDir hcreate) hstart
  have hm : w.Marks (w.start before).state.desk.hazards (fun _ => false) source.events :=
    ⟨by simp, fun e he _ => hdelivers e he⟩
  have hzero : Workers.resolve processors (.count 0) = 0 := rfl
  obtain ⟨hresult, hserial⟩ := h.serial source hzero hfailure hdistinct hm
  have hevery : Pool.OnEverySchedule threads false (fun e => w.write e.1 e.2) source
      (w.start before).state (fun result q => result = .ok source.events.length ∧
        q.Shows w path (Run.byNumber (w.records (fun _ => false) source.events))) := by
    refine Pool.onEverySchedule hthreads ?_ ?_
    · intro es hperm _ _
      have hd := nodup_of_subperm hperm.subperm hdistinct
      have hholds := h.settle (F := fun _ => false) (by simp) hd (by simp) (hm.subset hperm.subset)
      rw [List.nil_append] at hholds
      refine ⟨by rw [hperm.length_eq], ?_⟩
      rw [← Run.byNumber_eq_of_perm hholds.desk.session.distinct (records_perm hperm)]
      exact hholds.shows
    · intro es f hsub hcause
      rcases hcause with hraised | ⟨e, he⟩
      · rw [hfailure] at hraised
        contradiction
      · have hd := nodup_of_subperm hsub hdistinct
        obtain ⟨r, hr⟩ := (h.outcome hd (hm.subset hsub.subset) he).2 rfl
        contradiction
  refine ⟨path, _, h.file, h.spelledBy, ?_, ?_, ⟨hresult, hserial.shows⟩, hevery,
    process_of_every_schedule hevery h.desk.session.stage hthreads hworkers⟩
  · intro r
    rw [(Run.byNumber_perm _).mem_iff, mem_records]
    simp
  · rw [(Run.byNumber_perm _).length_eq, length_records hm]

def planeSettings : Config.WriterSection :=
  { fileName := "run", geometryFile := none, detectorName := "telescope",
    collection := some "hits" }

def planeRegistry : Geometry.Registry Float where
  detectors := [{
    name := "plane", position := .zeros [3], orientation := .zeros [3, 3],
    model := ⟨"sensor", [16, 16], [0.1, 0.1], 0.05, 0.0, 0.3⟩ }]
  field := .absent

def planeWriter : Writer :=
  ⟨planeSettings, planeRegistry, .ofText "out", 5, none, Run.plane⟩

def emptyDesk : Progress := { desk := { disk := .empty ["home"] } }

def planeEvent (number column : Int) : Delivery Float := (number, [Run.planeMessage column])

theorem threaded_run_equals_serial_run_two :
    ∃ path rs, (planeWriter.start emptyDesk).state.eventFile = some path ∧ rs.length = 2 ∧
      Pool.OnEverySchedule 3 false (fun e => planeWriter.write e.1 e.2)
        ⟨[planeEvent 9 7, planeEvent (-4) 8], none⟩ (planeWriter.start emptyDesk).state
        (fun result q => result = .ok 2 ∧ q.Shows planeWriter path rs) := by
  have hcreate : (create planeSettings planeRegistry "out" 5 none).result = .ok planeWriter := rfl
  have hstart : (planeWriter.start emptyDesk).result = .ok () := rfl
  have hworkers : Workers.resolve none (.count 3) = 3 := rfl
  have hdelivers : ∀ e ∈ [planeEvent 9 7, planeEvent (-4) 8],
      planeWriter.Delivers (planeWriter.start emptyDesk).state.desk.hazards e := by
    have hnamed : Run.plane.assignment.WellNamed := ⟨by decide, by decide⟩
    have h₉ : Run.plane.build 9 [Run.planeMessage 7] = .ok (Run.planeRecord 9 7) := rfl
    have h₄ : Run.plane.build (-4) [Run.planeMessage 8] = .ok (Run.planeRecord (-4) 8) := rfl
    have hs₉ := Run.storable_of_build hnamed (by decide) (by decide) (by decide) h₉
    have hs₄ := Run.storable_of_build hnamed (by decide) (by decide) (by decide) h₄
    exact List.forall_mem_cons.mpr ⟨⟨_, h₉, Run.Session.storeFault_of_storable hs₉⟩,
      List.forall_mem_cons.mpr ⟨⟨_, h₄, Run.Session.storeFault_of_storable hs₄⟩, by simp⟩⟩
  obtain ⟨path, rs, hfile, -, -, hlength, -, hevery, -⟩ :=
    threaded_run_equals_serial_run ⟨[planeEvent 9 7, planeEvent (-4) 8], none⟩ hcreate hstart
      (by decide) hworkers rfl (by decide) hdelivers
  exact ⟨path, rs, hfile, hlength, hevery⟩

/-- What a run that may fail comes to, with a result and in a state: it fails for one of its own
events or for its source, and what it leaves are events that did not fail. -/
structure Accounts (w : Writer) (p : Progress) (path : Path) (F : Delivery Float → Bool)
    (source : Source (Delivery Float)) (result : Except Failure Nat) (q : Progress) : Prop where
  fails : (∃ f, result = .error f) ↔
    (∃ e ∈ source.events, F e = true) ∨ ∃ f, source.failure = some f
  cause : ∀ f, result = .error f → source.failure = some f ∨
    ∃ e ∈ source.events, F e = true ∧ w.Raises p.desk.hazards path.text e f
  /-- So far as what a failed event has left behind can be cleared away. -/
  kept : (∀ e ∈ source.events, F e = true → (p.desk.hazards e.1).Clears) →
    ∃ rs, q.Shows w path rs ∧
      (∀ r ∈ rs, ∃ e ∈ source.events, F e = false ∧ w.builder.build e.1 e.2 = .ok r ∧
        (w.process none (.ok (.count 0)) false ⟨[e], none⟩ p).state.Shows w path [r]) ∧
      (Writer.abort q).result = .ok rs.length ∧ (Writer.abort q).state.Shows w path rs

theorem Progress.Holds.alone (h : p.Holds w path []) {e : Delivery Float}
    {r : Event.Record Float} (hb : w.builder.build e.1 e.2 = .ok r)
    (hdelivers : w.Delivers p.desk.hazards e) :
    (w.process none (.ok (.count 0)) false ⟨[e], none⟩ p).state.Shows w path [r] := by
  have hm : w.Marks p.desk.hazards (fun _ => false) [e] :=
    ⟨by simp, fun d hd _ => List.mem_singleton.mp hd ▸ hdelivers⟩
  have hzero : Workers.resolve none (.count 0) = 0 := rfl
  obtain ⟨-, hholds⟩ := h.serial ⟨[e], none⟩ hzero rfl (by simp) hm
  have hone : w.records (fun _ => false) [e] = [r] := by simp [records, hb, Except.toOption]
  have hshows := hholds.shows
  rw [hone] at hshows
  simpa [Run.byNumber] using hshows

theorem Progress.Holds.kept (h : p.Holds w path []) {F : Delivery Float → Bool}
    (hm : w.Marks p.desk.hazards F source.events) {es : List (Delivery Float)}
    (hsub : es ⊆ source.events) (hd : (es.map (·.1)).Nodup)
    (hc : ∀ e ∈ source.events, F e = true → (p.desk.hazards e.1).Clears) :
    ∃ rs, (Pool.settle (fun e => w.write e.1 e.2) p es).Shows w path rs ∧
      (∀ r ∈ rs, ∃ e ∈ source.events, F e = false ∧ w.builder.build e.1 e.2 = .ok r ∧
        (w.process none (.ok (.count 0)) false ⟨[e], none⟩ p).state.Shows w path [r]) ∧
      (Writer.abort (Pool.settle (fun e => w.write e.1 e.2) p es)).result = .ok rs.length ∧
      (Writer.abort (Pool.settle (fun e => w.write e.1 e.2) p es)).state.Shows w path rs := by
  have hholds := h.settle (by simp) hd (fun e he => hc e (hsub he)) (hm.subset hsub)
  rw [List.nil_append] at hholds
  obtain ⟨hresult, hshows⟩ := hholds.abort
  have hlength := (Run.byNumber_perm (w.records F es)).length_eq
  refine ⟨_, hholds.shows, ?_, by rw [hresult, hlength], hshows⟩
  intro r hr
  obtain ⟨e, he, hF, hb⟩ := mem_records.mp ((Run.byNumber_perm _).mem_iff.mp hr)
  exact ⟨e, hsub he, hF, hb, h.alone hb (hm.delivers e (hsub he) hF)⟩

theorem Progress.Holds.accounts_ok (h : p.Holds w path []) {F : Delivery Float → Bool}
    (hm : w.Marks p.desk.hazards F source.events) (hdistinct : (source.events.map (·.1)).Nodup)
    {es : List (Delivery Float)} (hperm : es.Perm source.events) (hnone : source.failure = none)
    (hall : ∀ o ∈ Pool.outcomes (fun e => w.write e.1 e.2) p es, ∃ r, o.2 = .ok r) :
    Accounts w p path F source (.ok es.length)
      (Pool.settle (fun e => w.write e.1 e.2) p es) := by
  have hd := nodup_of_subperm hperm.subperm hdistinct
  refine ⟨?_, by simp, h.kept hm hperm.subset hd⟩
  constructor
  · rintro ⟨f, hf⟩
    contradiction
  · rintro (⟨e, he, hF⟩ | ⟨f, hf⟩)
    · obtain ⟨x, hx⟩ := Pool.exists_outcome (fun e => w.write e.1 e.2) p (hperm.mem_iff.mpr he)
      obtain ⟨f, hf, -⟩ := (h.outcome hd (hm.subset hperm.subset) hx).1 hF
      obtain ⟨r, hr⟩ := hall _ hx
      rw [hf] at hr
      contradiction
    · rw [hnone] at hf
      contradiction

theorem Progress.Holds.accounts_error (h : p.Holds w path []) {F : Delivery Float → Bool}
    (hm : w.Marks p.desk.hazards F source.events) (hdistinct : (source.events.map (·.1)).Nodup)
    {es : List (Delivery Float)} (hsub : es.Subperm source.events) {f : Failure}
    (hcause : source.failure = some f ∨
      ∃ e, (e, .error f) ∈ Pool.outcomes (fun e => w.write e.1 e.2) p es) :
    Accounts w p path F source (.error f) (Pool.settle (fun e => w.write e.1 e.2) p es) := by
  have hd := nodup_of_subperm hsub hdistinct
  have htold : source.failure = some f ∨
      ∃ e ∈ source.events, F e = true ∧ w.Raises p.desk.hazards path.text e f := by
    rcases hcause with hraised | ⟨e, he⟩
    · exact .inl hraised
    · have hmem := hsub.subset (Pool.mem_of_mem_outcomes he)
      obtain ⟨hfails, hdelivers⟩ := h.outcome hd (hm.subset hsub.subset) he
      cases hF : F e with
      | true =>
        obtain ⟨g, hg, hraises⟩ := hfails hF
        exact .inr ⟨e, hmem, hF, Except.error.inj hg ▸ hraises⟩
      | false =>
        obtain ⟨r, hr⟩ := hdelivers hF
        contradiction
  refine ⟨⟨fun _ => ?_, fun _ => ⟨f, rfl⟩⟩, ?_, h.kept hm hsub.subset hd⟩
  · exact htold.symm.imp (fun ⟨e, he, hF, _⟩ => ⟨e, he, hF⟩) fun hf => ⟨f, hf⟩
  · rintro g hg
    exact Except.error.inj hg ▸ htold

/-- A failure on one of several threads is told, and spoils no other event: however the threads take
turns, the run ends, with nothing going on any more, and accounts for its events. -/
theorem threaded_run_accounts (source : Source (Delivery Float)) {F : Delivery Float → Bool}
    (hcreate : (create settings registry outputDir run configText).result = .ok w)
    (hstart : (w.start before).result = .ok ())
    (hthreads : 0 < threads) (hworkers : workers.resolve processors = threads)
    (hdistinct : (source.events.map (·.1)).Nodup)
    (hmarks : w.Marks (w.start before).state.desk.hazards F source.events) :
    ∃ path, (w.start before).state.eventFile = some path ∧ path.SpelledBy path.text ∧
      Pool.OnEverySchedule threads false (fun e => w.write e.1 e.2) source (w.start before).state
        (Accounts w (w.start before).state path F source) ∧
      Accounts w (w.start before).state path F source
        (w.process processors (.ok workers) false source (w.start before).state).result
        (w.process processors (.ok workers) false source (w.start before).state).state := by
  obtain ⟨path, h⟩ := start_holds (create_outputDir hcreate) hstart
  have hevery : Pool.OnEverySchedule threads false (fun e => w.write e.1 e.2) source
      (w.start before).state (Accounts w (w.start before).state path F source) := by
    refine Pool.onEverySchedule hthreads ?_ ?_
    · intro es hperm hnone hall
      exact h.accounts_ok hmarks hdistinct hperm hnone hall
    · intro es f hsub hcause
      exact h.accounts_error hmarks hdistinct hsub hcause
  exact ⟨path, h.file, h.spelledBy, hevery,
    process_of_every_schedule hevery h.desk.session.stage hthreads hworkers⟩

def strangeEvent (number : Int) : Delivery Float := (number, [{ detector := "stranger" }])

theorem threaded_run_accounts_stranger :
    (∀ n, ((planeWriter.start emptyDesk).state.desk.hazards n).Clears) ∧
      ∃ path, (planeWriter.start emptyDesk).state.eventFile = some path ∧
      Pool.OnEverySchedule 3 false (fun e => planeWriter.write e.1 e.2)
        ⟨[planeEvent 9 7, strangeEvent 3], some (.number .malformed)⟩
        (planeWriter.start emptyDesk).state
        (Accounts planeWriter (planeWriter.start emptyDesk).state path (fun e => e.1 == 3)
          ⟨[planeEvent 9 7, strangeEvent 3], some (.number .malformed)⟩) := by
  have hcreate : (create planeSettings planeRegistry "out" 5 none).result = .ok planeWriter := rfl
  have hstart : (planeWriter.start emptyDesk).result = .ok () := rfl
  have hworkers : Workers.resolve none (.count 3) = 3 := rfl
  have h₉ : Run.plane.build 9 [Run.planeMessage 7] = .ok (Run.planeRecord 9 7) := rfl
  have h₃ : Run.plane.build 3 (strangeEvent 3).2 = .error (.unknownDetector "stranger") := rfl
  have hs₉ := Run.storable_of_build (b := Run.plane) ⟨by decide, by decide⟩ (by decide)
    (by decide) (by decide) h₉
  have hmarks : planeWriter.Marks (planeWriter.start emptyDesk).state.desk.hazards
      (fun e => e.1 == 3) [planeEvent 9 7, strangeEvent 3] := by
    constructor
    · refine List.forall_mem_cons.mpr ⟨by simp [planeEvent], List.forall_mem_cons.mpr ⟨?_, by simp⟩⟩
      intro _ r hr
      exact absurd (h₃.symm.trans hr) (by simp)
    · refine List.forall_mem_cons.mpr ⟨fun _ => ?_, List.forall_mem_cons.mpr ⟨?_, by simp⟩⟩
      · exact ⟨_, h₉, Run.Session.storeFault_of_storable hs₉⟩
      · simp [strangeEvent]
  obtain ⟨path, hfile, -, hevery, -⟩ := threaded_run_accounts
    ⟨[planeEvent 9 7, strangeEvent 3], some (.number .malformed)⟩ hcreate hstart (by decide)
    hworkers (by decide) hmarks
  exact ⟨fun _ => ⟨fun _ => rfl, rfl⟩, path, hfile, hevery⟩

end PixelTelescope.Writer
