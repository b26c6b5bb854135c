import PixelTelescope.Assignment.Configured
import PixelTelescope.Proofs.Assignment.Table
import PixelTelescope.Proofs.Config.Settled
import PixelTelescope.Proofs.Text.Digits

namespace PixelTelescope.Assignment

/-- A cell of a table: a text, or a whole number that is short enough to be read back. -/
inductive IsCell : Value → Prop where
  | text (s : String) : IsCell (.text s)
  | whole (n : Int) (h : (Nat.toDigits 10 n.natAbs).length ≤ Text.digitLimit) : IsCell (.int n)

/-- What is asked for by a table as it stands, before a section has made texts of it. -/
def Request.ofCells (detectors : List String) (collection : Option String)
    (table : Option (List (List Value))) : Request where
  detectors
  collection
  rows := table.map fun rows => .list (rows.map .list)

/-- Two attempts that come to the same: equal results, or a configuration that is to blame both
times. The blame may be put in different words, which show cells in different ways. -/
inductive Concurs {β : Type} : Except Failure β → Except Failure β → Prop where
  | ok (x : β) : Concurs (.ok x) (.ok x)
  | blamed (f g : ConfigurationFault) :
    Concurs (.error (.configuration f)) (.error (.configuration g))

variable {detectors : List String} {a : Assignment} {index : Nat} {row : List Value}
  {table : List (List Value)} {v : Value}

namespace Concurs

variable {β γ : Type} {x y : Except Failure β}

theorem refl (h : ∀ f, x = .error f → ∃ fault, f = .configuration fault) : Concurs x x := by
  cases x with
  | ok z => exact .ok z
  | error f =>
    obtain ⟨fault, rfl⟩ := h f rfl
    exact .blamed fault fault

theorem bind {f g : β → Except Failure γ} (h : Concurs x y) (hfg : ∀ z, Concurs (f z) (g z)) :
    Concurs (x >>= f) (y >>= g) := by
  cases h with
  | ok z => exact hfg z
  | blamed fault fault' => exact .blamed fault fault'

end Concurs

/-- Reading a number back from its text undoes the writing. -/
theorem rowSensorId_display (hv : IsCell v) (detector : String) :
    rowSensorId index detector (some (.text v.display)) = rowSensorId index detector (some v) := by
  cases hv with
  | text s => rfl
  | whole n h =>
    have hread : Text.readInt (Value.int n).display = some n := Text.readInt_toString h
    simp only [rowSensorId, Value.reading, Reading.toInt, hread]

theorem addEntry_display {first second third : Value} (hthird : IsCell third) :
    addEntry detectors a index (.text first.display) (.text second.display)
        (some (.text third.display)) =
      addEntry detectors a index first second (some third) := by
  simp only [addEntry, rowSensorId_display hthird]
  rfl

/-- A row says the same whether its cells stand as they are or as texts. -/
theorem addRow_display (h : ∀ v ∈ row, IsCell v) :
    Concurs (addRow detectors a index (.texts (row.map Value.display)))
      (addRow detectors a index (.list row)) := by
  have herror : ∀ f, addRow detectors a index (.texts (row.map Value.display)) = .error f →
      ∃ fault, f = .configuration fault := fun f hf => addRow_error hf
  match row with
  | [] => exact .blamed _ _
  | [_] => exact .blamed _ _
  | [first, second] => exact .refl herror
  | [first, second, third] =>
    have hsame : addRow detectors a index (.texts [first.display, second.display, third.display]) =
        addRow detectors a index (.list [first, second, third]) :=
      addEntry_display (h third (by simp))
    rw [← hsame]
    exact .refl herror
  | _ :: _ :: _ :: _ :: _ => exact .blamed _ _

theorem addRows_display (h : ∀ row ∈ table, ∀ v ∈ row, IsCell v) :
    Concurs (addRows detectors a index (table.map fun row => .texts (row.map Value.display)))
      (addRows detectors a index (table.map .list)) := by
  induction table generalizing a index with
  | nil => exact .ok a
  | cons row rest ih =>
    have hrow : Concurs (addRow detectors a index (.texts (row.map Value.display)))
        (addRow detectors a index (.list row)) := addRow_display (h row List.mem_cons_self)
    exact hrow.bind fun _ => ih fun more hmore => h more (List.mem_cons_of_mem _ hmore)

theorem fromRows_display (h : ∀ row ∈ table, ∀ v ∈ row, IsCell v) :
    Concurs (fromRows detectors (.list (table.map fun row => .texts (row.map Value.display))))
      (fromRows detectors (.list (table.map .list))) := by
  refine (addRows_display h).bind fun a => ?_
  dsimp only
  split
  · exact .ok a
  · exact .blamed _ _

theorem uniform_error {collection : String} {source : Source} {f : Failure}
    (h : uniform detectors collection source = .error f) : ∃ fault, f = .configuration fault := by
  unfold uniform checkName at h
  split at h
  · contradiction
  · exact ⟨_, (Except.error.inj h).symm⟩

open Config Checked in
/-- What a section makes of a short form and a table. -/
theorem writerSection_ofCells (collection : Option String) (table : Option (List (List Value))) :
    WriterSection.check [("output_collection_name", .ofOption .text collection),
        ("detector_assignment", .ofOption (.ofList .list) table)] =
      .ok { collection, assignment := table.map fun rows => rows.map (·.map Value.display) } := by
  have hcollection : optional asText (.ofOption .text collection) = .ok collection := by
    cases collection <;> rfl
  have htable : optional asRows (.ofOption (.ofList .list) table) =
      .ok (table.map fun rows => rows.map (·.map Value.display)) := by
    cases table with
    | none => rfl
    | some rows =>
      rw [Value.ofOption, Checked.optional, asRows_lists]
      · rfl
      · simp [Value.ofList]
  exact and_ok (and_ok (and_ok (and_ok (and_ok (and_ok (and_ok (and_ok rfl rfl) rfl) rfl) rfl) rfl)
    rfl) (under_eq_ok.mpr hcollection)) (under_eq_ok.mpr htable)

/-- What is logged shows the result alone. -/
theorem Concurs.entries {r r' : Request} (h : Concurs r.resolve r'.resolve)
    (hconflict : r.conflict = r'.conflict) : r.logged.entries = r'.logged.entries := by
  unfold Request.logged
  generalize r.resolve = x at *
  generalize r'.resolve = y at *
  rw [hconflict]
  cases h with
  | ok a => rfl
  | blamed f g => rfl

/-- Texts, and numbers that are short enough, lead to the same assignment whether they go through a
section or straight to the request, or to none, and the same is logged. -/
theorem section_concurs (detectors : List String) (collection : Option String)
    {table : Option (List (List Value))}
    (h : ∀ rows ∈ table, ∀ row ∈ rows, ∀ v ∈ row, IsCell v) :
    ∃ s, Config.WriterSection.check [("output_collection_name", .ofOption .text collection),
        ("detector_assignment", .ofOption (.ofList .list) table)] = .ok s ∧
      Concurs (s.request detectors).resolve
        (Request.ofCells detectors collection table).resolve ∧
      (s.request detectors).logged.entries =
        (Request.ofCells detectors collection table).logged.entries := by
  refine ⟨_, writerSection_ofCells collection table, ?_⟩
  suffices hresolve : Concurs _ _ from
    ⟨hresolve, hresolve.entries (by cases collection <;> cases table <;> rfl)⟩
  cases collection with
  | some name => exact .refl fun f => uniform_error
  | none =>
    cases table with
    | none => exact .refl fun f => uniform_error
    | some rows =>
      simp only [Config.WriterSection.request, Request.ofCells, Request.resolve, Option.map_some,
        List.map_map]
      exact fromRows_display (h rows rfl)

/-- The two routes read the same numbers. -/
theorem section_concurs_numbers : ∃ s a,
    Config.WriterSection.check [("output_collection_name", .null),
      ("detector_assignment", .list [.list [.int 5, .text "outer", .int (-3)],
        .list [.text "front", .int 12]])] = .ok s ∧
    (s.request ["front", "5"]).resolve = .ok a ∧
    (Request.ofCells ["front", "5"] none (some [[.int 5, .text "outer", .int (-3)],
      [.text "front", .int 12]])).resolve = .ok a ∧
    a.sensorIds = [("5", -3), ("front", 1)] ∧ a.names = ["outer", "12"] := by
  have hcells : ∀ rows ∈ some [[Value.int 5, .text "outer", .int (-3)], [.text "front", .int 12]],
      ∀ row ∈ rows, ∀ v ∈ row, IsCell v := by
    simp only [Option.mem_some_iff, forall_eq', List.forall_mem_cons]
    exact ⟨⟨.whole 5 (by decide), .text _, .whole (-3) (by decide), by simp⟩,
      ⟨.text _, .whole 12 (by decide), by simp⟩, by simp⟩
  obtain ⟨s, hs, hresolve, -⟩ := section_concurs ["front", "5"] none hcells
  have hdirect : (Request.ofCells ["front", "5"] none (some [[.int 5, .text "outer", .int (-3)],
      [.text "front", .int 12]])).resolve =
      .ok ⟨[("5", "outer"), ("front", "12")], [("5", -3), ("front", 1)], ["outer", "12"],
        .long⟩ := by
    decide +kernel
  rw [hdirect] at hresolve
  generalize hsection : (s.request ["front", "5"]).resolve = x at hresolve
  cases hresolve
  exact ⟨s, _, hs, hsection, hdirect, rfl, rfl⟩

end PixelTelescope.Assignment
