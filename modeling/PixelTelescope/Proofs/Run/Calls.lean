import PixelTelescope.Proofs.Run.Desk

namespace PixelTelescope.Run

variable {α : Type}

inductive Call (α : Type) where
  | openRun (path : String) (run : Reading Float) (detector : String) (config : Option String)
  | append (r : Event.Record α)
  | close

/-- Makes a call; closing alone gives a number. -/
def Call.perform (w : Desk α) : Call α → After (Desk α) (Option Nat)
  | .openRun path run detector config =>
    let after := w.openRun (.ofText path) run detector config
    ⟨after.state, after.entries, after.result.map fun _ => none⟩
  | .append r =>
    let after := w.put r
    ⟨after.state, after.entries, after.result.map fun _ => none⟩
  | .close =>
    let after := w.close
    ⟨after.state, after.entries, after.result.map some⟩

/-- A call that was made, with the desk that it was made on. -/
structure Turn (α : Type) where
  call : Call α
  before : Desk α

namespace Turn

def after (t : Turn α) : Desk α := (t.call.perform t.before).state

def result (t : Turn α) : Except Failure (Option Nat) := (t.call.perform t.before).result

def stage (t : Turn α) : Stage := t.before.session.stage

def opens (t : Turn α) : Bool :=
  match t.call, t.result with
  | .openRun .., .ok _ => true
  | _, _ => false

def closes (t : Turn α) : Bool :=
  match t.call, t.result with
  | .close, .ok _ => true
  | _, _ => false

def stored? (t : Turn α) : Option (Event.Record α) :=
  match t.call, t.result with
  | .append r, .ok _ => some r
  | _, _ => none

end Turn

def stored (history : List (Turn α)) : List (Event.Record α) := history.filterMap Turn.stored?

namespace Desk

variable {w : Desk α} {t : Title} {path : Path} {rs : List (Event.Record α)} {r : Event.Record α}

/-- The disk is where the session is already. -/
theorem Holds.sync_self (h : w.Holds t path rs) : w.sync w.session = w := by
  obtain ⟨l, hl, hn⟩ := Disk.find_ok.mp h.disk
  have hroot : l ≠ [] := by
    rintro rfl
    simp [Disk.node?] at hn
  have hget : Keyed.get? l w.disk.nodes = some (.file (.run w.session.file)) := by
    simpa [Disk.node?, hroot] using hn
  have hwrite : w.disk.write path (.run w.session.file) = .ok w.disk := by
    refine Disk.write_ok.mpr ⟨l, hl, by simp [hn], ?_⟩
    rw [Disk.put, Keyed.put_of_get? hget]
  simp only [Desk.sync, h.opened, Path.ofText_text h.normal, store, hwrite]
  rfl

theorem createFile_error {d : Disk (Content α)} {f : Failure} (h : createFile d path = .error f)
    (fault : LifecycleFault) : f ≠ .lifecycle fault := by
  unfold createFile at h
  split at h
  · contradiction
  · rw [← Except.error.inj h]
    simp
  · rw [← Except.error.inj h]
    simp

end Desk

theorem writeAttributes_some {attributes : List (String × Attribute)} {f f' : File α}
    {failure : Failure} (h : writeAttributes f attributes = (f', some failure)) :
    ∃ a, failure = attributeFailure a := by
  induction attributes generalizing f with
  | nil => simp [writeAttributes] at h
  | cons pair rest ih =>
    obtain ⟨name, a⟩ := pair
    simp only [writeAttributes] at h
    split at h
    · exact ih h
    · simp only [Prod.mk.injEq, Option.some.injEq] at h
      exact ⟨a, h.2.symm⟩

theorem begin_some {run : Int} {detector : String} {config : Option String} {f : File α}
    {failure : Failure} (h : File.begin run detector config = (f, some failure))
    (fault : LifecycleFault) : failure ≠ .lifecycle fault := by
  unfold File.begin at h
  split at h
  · simp at h
  · rename_i g failure' hw
    simp only [Prod.mk.injEq, Option.some.injEq] at h
    obtain ⟨a, ha⟩ := writeAttributes_some hw
    rw [← h.2, ha]
    cases a <;> simp [attributeFailure]

/-- A session that is not open yet stays as it is when it cannot be opened, and the reason is not
that it is open. -/
theorem Session.openRun_failed {s : Session α} (hs : s.stage = .uninitialized)
    {created : Except Failure Unit}
    (hcreated : ∀ f, created = .error f → ∀ fault, f ≠ .lifecycle fault) {path detector : String}
    {run : Reading Float} {config : Option String} {f : Failure}
    (h : (s.openRun created path run detector config).result = .error f) :
    (s.openRun created path run detector config).state.1 = s ∧
      ∀ fault, f ≠ .lifecycle fault := by
  simp only [Session.openRun, hs] at h ⊢
  split at h
  · rename_i g
    exact ⟨rfl, Except.error.inj h ▸ hcreated g rfl⟩
  · rename_i hn
    refine ⟨rfl, ?_⟩
    rw [← Except.error.inj h]
    simp
  · rename_i n hn
    split at h
    · rename_i file failure hfile
      exact ⟨rfl, Except.error.inj h ▸ begin_some hfile⟩
    · contradiction

theorem Desk.openRun_failed {w : Desk α} (hs : w.session.stage = .uninitialized) {path : Path}
    {run : Reading Float} {detector : String} {config : Option String} {f : Failure}
    (h : (w.openRun path run detector config).result = .error f) :
    (w.openRun path run detector config).state.session = w.session ∧
      ∀ fault, f ≠ .lifecycle fault := by
  refine Session.openRun_failed hs ?_ h
  intro g hg
  cases hc : createFile w.disk path with
  | ok d =>
    rw [hc] at hg
    contradiction
  | error g' =>
    rw [hc] at hg
    exact Except.error.inj hg ▸ Desk.createFile_error hc

/-- A session that was opened before is not opened again. -/
theorem Desk.openRun_refused {w : Desk α} (hs : w.session.stage ≠ .uninitialized) (path : Path)
    (run : Reading Float) (detector : String) (config : Option String) :
    w.openRun path run detector config =
      ⟨w, [], .error (.lifecycle (.cannotOpen w.session.stage))⟩ := by
  cases hstage : w.session.stage with
  | uninitialized => exact absurd hstage hs
  | «open» =>
    simp only [Desk.openRun, Session.openRun, hstage]
    cases createFile w.disk path <;> rfl
  | closed =>
    simp only [Desk.openRun, Session.openRun, hstage]
    cases createFile w.disk path <;> rfl

theorem Desk.put_refused {w : Desk α} (hs : w.session.stage ≠ .open) (r : Event.Record α) :
    w.put r = ⟨w, [], .error (.lifecycle (.cannotWrite r.number w.session.stage))⟩ := by
  cases hstage : w.session.stage with
  | uninitialized => simp only [Desk.put, Desk.append, Session.append, hstage]
  | «open» => exact absurd hstage hs
  | closed => simp only [Desk.put, Desk.append, Session.append, hstage]

end PixelTelescope.Run
