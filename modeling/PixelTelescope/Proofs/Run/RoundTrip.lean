import PixelTelescope.Proofs.Act
import PixelTelescope.Proofs.Run.Built
import PixelTelescope.Proofs.Run.Desk

namespace PixelTelescope.Run

variable {α : Type}

namespace Desk

def putAll : List (Event.Record α) → Act (Desk α) Unit
  | [] => .succeed ()
  | r :: rest => do
    fun w => w.put r
    putAll rest

def writeRun (path : Path) (run : Reading Float) (detector : String) (config : Option String)
    (rs : List (Event.Record α)) : Act (Desk α) Nat := do
  fun w => w.openRun path run detector config
  putAll rs
  close

variable {w : Desk α} {t : Title} {path : Path}

/-- Records that a file takes, of different numbers, are all stored if nothing else goes wrong. -/
theorem Holds.putAll {stored : List (Event.Record α)} (rs : List (Event.Record α))
    (h : w.Holds t path stored)
    (hsafe : ∀ r ∈ rs, w.hazards r.number = {}) (hs : ∀ r ∈ rs, Storable r)
    (hd : ((stored ++ rs).map (·.number)).Nodup) :
    (Desk.putAll rs w).result = .ok () ∧ (Desk.putAll rs w).state.Holds t path (stored ++ rs) := by
  induction rs generalizing w stored with
  | nil =>
    rw [List.append_nil]
    exact ⟨rfl, h⟩
  | cons r rest ih =>
    have hnew : r.number ∉ stored.map (·.number) := by
      rw [List.map_append, List.nodup_append] at hd
      exact fun hm => hd.2.2 _ hm _ (by simp) rfl
    have hf : storeFault (w.hazards r.number) stored.length r = none := by
      rw [hsafe r List.mem_cons_self]
      exact Session.storeFault_of_storable (hs r List.mem_cons_self) _
    obtain ⟨hresult, hholds, hhazards⟩ := h.put_stored hnew hf
    obtain ⟨hstate, hfinal⟩ := Act.bind_ok (a := fun w : Desk α => w.put r)
      (f := fun _ => Desk.putAll rest) hresult
    have hrest := ih hholds (fun q hq => by rw [hhazards, hsafe q (List.mem_cons_of_mem _ hq)])
      (fun q hq => hs q (List.mem_cons_of_mem _ hq)) (by simpa using hd)
    rw [List.append_assoc, List.singleton_append] at hrest
    exact ⟨hfinal.trans hrest.1, hstate ▸ hrest.2⟩

theorem writeRun_closed {run : Reading Float} {detector : String} {config : Option String}
    {rs : List (Event.Record α)} (hp : path.Normal)
    (hopen : (w.openRun path run detector config).result = .ok ())
    (hsafe : ∀ r ∈ rs, w.hazards r.number = {}) (hs : ∀ r ∈ rs, Storable r)
    (hd : (rs.map (·.number)).Nodup) :
    (writeRun path run detector config rs w).result = .ok rs.length ∧
      ∃ n, run.toInt = .ok n ∧
        (writeRun path run detector config rs w).state.Closed ⟨n, detector, config⟩ path rs := by
  obtain ⟨n, hn, hholds, hhazards⟩ := openRun_holds hp hopen
  obtain ⟨hall, hstored⟩ := hholds.putAll rs
    (fun r hr => by rw [hhazards, hsafe r hr]) hs (by simpa using hd)
  obtain ⟨hresult, hclosed⟩ := hstored.close
  obtain ⟨hstate₁, hresult₁⟩ := Act.bind_ok
    (a := fun w : Desk α => w.openRun path run detector config)
    (f := fun _ => do Desk.putAll rs; close) hopen
  obtain ⟨hstate₂, hresult₂⟩ := Act.bind_ok (f := fun _ => close) hall
  refine ⟨hresult₁.trans (hresult₂.trans hresult), n, hn, ?_⟩
  rw [writeRun, hstate₁, hstate₂]
  exact hclosed

end Desk

variable [Scalar α] {w : Desk α} {given detector : String} {run : Reading Float}
  {config : Option String} {request : Assignment.Request} {b : Event.Builder}
  {rs : List (Event.Record α)}

/-- What is stored of a run is what is read of it, under every text that names its file: every
event under its number, all of them in order, and the header; and no event that was there
before. -/
theorem written_run_reads_back
    (hopen : (w.openRun (.ofText given) run detector config).result = .ok ())
    (hresolved : request.resolve = .ok b.assignment)
    (hrun : Attribute.fits b.run = true) (htype : Attribute.fits b.eventType = true)
    (hbuilt : ∀ r ∈ rs, Attribute.fits r.number = true ∧
      ∃ messages, b.build r.number messages = .ok r)
    (hdistinct : (rs.map (·.number)).Nodup) (hsafe : ∀ r ∈ rs, w.hazards r.number = {}) :
    (Desk.writeRun (.ofText given) run detector config rs w).result = .ok rs.length ∧
      (Path.ofText given).SpelledBy (Path.ofText given).text ∧
      ∃ n f, run.toInt = .ok n ∧
        (∀ name, (Path.ofText given).SpelledBy name → readRun
          (Desk.writeRun (.ofText given) run detector config rs w).state.disk name = .ok f) ∧
        f.header = .ok ⟨n, detector, rs.length, formatVersion⟩ ∧
        (∀ name, ∀ r ∈ rs, f.event name r.number = .ok r) ∧
        (∀ name m, f.event name m = .error (.noEvent m name) ↔ m ∉ rs.map (·.number)) ∧
        ∃ sorted, f.records = .ok sorted ∧ sorted.Perm rs ∧
          sorted.Pairwise fun a b => a.number < b.number := by
  have hnamed := Assignment.Request.resolve_wellNamed hresolved
  have hs : ∀ r ∈ rs, Storable r := by
    intro r hr
    obtain ⟨hnumber, messages, hbuild⟩ := hbuilt r hr
    exact storable_of_build hnamed hrun htype hnumber hbuild
  obtain ⟨hresult, n, hn, hclosed⟩ :=
    Desk.writeRun_closed (Path.ofText_normal given) hopen hsafe hs hdistinct
  have hspelled := Disk.spelledBy_of_find (Path.ofText_normal given) hclosed.disk
  refine ⟨hresult, hspelled, n, storedFile ⟨n, detector, config⟩ rs, hn, ?_, header_storedFile _ _,
    ?_, ?_, byNumber rs, records_storedFile hs, byNumber_perm rs, byNumber_pairwise hdistinct⟩
  · intro name hname
    exact readRun_of_find hclosed.disk hname
  · intro name r hr
    exact event_storedFile hdistinct hs name hr
  · intro name m
    constructor
    · intro hnone hm
      obtain ⟨r, hr, rfl⟩ := List.mem_map.mp hm
      rw [event_storedFile hdistinct hs name hr] at hnone
      contradiction
    · exact no_event_storedFile name

def plane : Event.Builder where
  assignment := ⟨[("plane", "hits")], [("plane", 0)], ["hits"], .short⟩
  run := 5

def planeMessage (column : Int) : Event.Message Float :=
  { detector := "plane",
    hits := [⟨"plane", .whole column, .whole 3, .real 1.5, .real 0.25, []⟩] }

def planeRecord (number column : Int) : Event.Record Float where
  run := 5
  number := number
  type := 2
  collections := [⟨"hits", .timed, [⟨0, column, 3, 1.5, some 0.25⟩]⟩]
  truth := none

def usedDesk : Desk Float :=
  { disk := ⟨["home"], [(["home"], .directory), (["home", "run.h5"], .file (.text "older"))]⟩ }

theorem written_run_reads_back_unordered :
    ∃ f : File Float, readRun (Desk.writeRun (.ofText "run.h5") (.whole 5) "telescope" none
      [planeRecord 1000000000 7, planeRecord (-4) 8] usedDesk).state.disk "run.h5" = .ok f ∧
      f.records = .ok [planeRecord (-4) 8, planeRecord 1000000000 7] := by
  have hbuilt : ∀ r ∈ [planeRecord 1000000000 7, planeRecord (-4) 8],
      Attribute.fits r.number = true ∧ ∃ messages, plane.build r.number messages = .ok r :=
    List.forall_mem_cons.mpr ⟨⟨by decide, [planeMessage 7], rfl⟩,
      List.forall_mem_cons.mpr ⟨⟨by decide, [planeMessage 8], rfl⟩, by simp⟩⟩
  have hresolved : ({ detectors := ["plane"], collection := some "hits" } :
      Assignment.Request).resolve = .ok plane.assignment := rfl
  have hopen : (usedDesk.openRun (.ofText "run.h5") (.whole 5) "telescope" none).result = .ok () :=
    rfl
  obtain ⟨-, hspelled, n, f, -, hread, -, -, -, sorted, hsorted, hperm, hpairwise⟩ :=
    written_run_reads_back hopen hresolved (by decide) (by decide) hbuilt (by decide)
      (by simp [usedDesk])
  refine ⟨f, hread _ hspelled, ?_⟩
  have hswap := hperm.trans (List.Perm.swap (planeRecord (-4) 8) (planeRecord 1000000000 7) [])
  rw [hsorted, hswap.eq_of_pairwise (by intros; omega) hpairwise (by simp [planeRecord])]

end PixelTelescope.Run
