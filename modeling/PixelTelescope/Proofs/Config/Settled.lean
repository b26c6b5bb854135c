import PixelTelescope.Config.Dump
import PixelTelescope.Config.Load
import PixelTelescope.Proofs.Config.Accepted
import PixelTelescope.Proofs.Outcome

namespace PixelTelescope.Config

open Checked

section

variable {β : Type} {name : String} {fields : Fields} {holds : β → Bool} {rule : Rule}
  {check : Value → Checked β} {write : β → Value} {default x : β}

/-- Whatever a check makes of a value, it makes the same of that once it is written down: a second
check changes nothing. -/
def Settles (check : Value → Checked β) (write : β → Value) : Prop :=
  ∀ v x, check v = .ok x → check (write x) = .ok x

namespace Settles

theorem ensure (h : Settles check write) :
    Settles (fun v => (check v).ensure holds rule) write := by
  intro v x hx
  obtain ⟨hx, hholds⟩ := ensure_eq_ok.mp hx
  exact ensure_eq_ok.mpr ⟨h v x hx, hholds⟩

/-- Nothing but a missing value is written as null. -/
theorem optional (h : Settles check write) (hnull : ∀ x, write x ≠ .null) :
    Settles (optional check) (.ofOption write) := by
  intro v o ho
  cases o with
  | none => rfl
  | some x =>
    have hx : check v = .ok x := by
      unfold Checked.optional at ho
      split at ho
      · cases ho
      · split at ho
        · rename_i y hy
          rw [hy, Option.some.inj (Except.ok.inj ho)]
        · contradiction
    rw [Value.ofOption, Checked.optional]
    · rw [h v x hx]
    · exact hnull x

theorem itemsFrom_map {xs : List β} (h : ∀ x ∈ xs, check (write x) = .ok x) (n : Nat) :
    itemsFrom check n (xs.map write) = .ok xs := by
  induction xs generalizing n with
  | nil => rfl
  | cons x rest ih =>
    have hx := h x List.mem_cons_self
    have hrest := ih (fun y hy => h y (List.mem_cons_of_mem _ hy)) (n + 1)
    exact and_eq_ok.mpr ⟨_, _, and_eq_ok.mpr ⟨_, _, rfl, under_eq_ok.mpr hx, rfl⟩, hrest, rfl⟩

theorem items (h : Settles check write) : Settles (items check) (.ofList write) := by
  intro v xs hxs
  refine itemsFrom_map (fun x hx => ?_) 0
  obtain ⟨w, hw⟩ := items_eq_ok hxs x hx
  exact h w x hw

/-- A field that was left out has its value written down. -/
theorem given (h : Settles check write) (hdefault : check (write default) = .ok default)
    (hx : given name fields default check = .ok x) {fields' : Fields}
    (hfield : Value.field? name fields' = some (write x)) :
    Checked.given name fields' default check = .ok x := by
  have hagain : check (write x) = .ok x := by
    rcases given_eq_ok hx with rfl | ⟨v, hv⟩
    · exact hdefault
    · exact h v x hv
  simp only [Checked.given, hfield]
  exact under_eq_ok.mpr hagain

theorem required (h : Settles check write) (hx : required name fields check = .ok x)
    {fields' : Fields} (hfield : Value.field? name fields' = some (write x)) :
    Checked.required name fields' check = .ok x := by
  obtain ⟨v, hv⟩ := required_eq_ok hx
  simp only [Checked.required, hfield]
  exact under_eq_ok.mpr (h v x hv)

end Settles

theorem settles_asWhole : Settles asWhole .int := fun _ _ _ => rfl

theorem settles_asNumber : Settles asNumber .float := fun _ _ _ => rfl

theorem settles_asTruth : Settles asTruth .bool := fun _ _ _ => rfl

theorem settles_asText : Settles asText .text := fun _ _ _ => rfl

theorem settles_asPixelType : Settles (asChoice PixelType.ofValue?) fun p => .int p.code := by
  intro _ p _
  cases p <;> rfl

theorem settles_asFormat : Settles (asWord SourceFormat.ofText?) fun f => .text f.text := by
  intro _ f _
  cases f <;> rfl

theorem settles_asKind : Settles (asWord Geometry.FieldKind.ofText?) fun k => .text k.text := by
  intro _ k _
  cases k <;> rfl

/-- The word for all processors is no number. -/
theorem settles_asWorkers : Settles asWorkers Workers.toValue := by
  intro _ w _
  cases w <;> rfl

theorem settles_asNumbers : Settles asNumbers (.ofList .float) := settles_asNumber.items

theorem settles_asGrid : Settles asGrid (.ofList (.ofList .float)) := settles_asNumbers.items

theorem settles_asPixels : Settles asPixels (.ofList .int) := settles_asWhole.items.ensure.ensure

/-- Rows of whatever kind become rows of texts, cell by cell. -/
theorem asRows_lists (rows : List (List Value)) :
    asRows (.ofList .list rows) = .ok (rows.map (·.map Value.display)) := by
  have hrows : (rows.map Value.list).mapM displayed = some (rows.map (·.map Value.display)) := by
    induction rows with
    | nil => rfl
    | cons row rest ih =>
      rw [List.map_cons, List.mapM_cons, ih]
      rfl
  simp only [asRows, Value.ofList, Value.items?, Option.bind_some, hrows]

/-- Texts are shown as they are. -/
theorem settles_asRows : Settles asRows (.ofList .texts) := by
  intro _ rows _
  have htexts : Value.ofList Value.texts rows = .ofList .list (rows.map (·.map .text)) := by
    simp [Value.ofList, Value.texts]
  rw [htexts, asRows_lists]
  simp [Function.comp_def, Value.display]

/-- The second reading counts only where the first one does not fit. -/
theorem either_eq_ok {left right : String} {first second : Value → Checked β} {v : Value} :
    either left first right second v = .ok x ↔
      first v = .ok x ∨ (∀ y, first v ≠ .ok y) ∧ second v = .ok x := by
  unfold either
  cases first v with
  | ok y => simp
  | error r => cases second v <;> simp

theorem items_eq_nil {v : Value} (h : items check v = .ok []) : v = .list [] := by
  unfold items at h
  split at h
  · rename_i vs
    cases vs with
    | nil => rfl
    | cons w rest =>
      obtain ⟨make, more, hmake, -, hcons⟩ := and_eq_ok.mp h
      obtain ⟨cons, y, hstart, -, rfl⟩ := and_eq_ok.mp hmake
      obtain rfl := Except.ok.inj hstart
      contradiction
  · contradiction

/-- No list of lists is a list of numbers. -/
theorem asNumbers_lists (row : List Value) (rest : List Value) (list : List Float) :
    asNumbers (.list (.list row :: rest)) ≠ .ok list := by
  intro h
  obtain ⟨make, more, hmake, -, -⟩ := and_eq_ok.mp h
  obtain ⟨cons, y, -, hrow, -⟩ := and_eq_ok.mp hmake
  exact nomatch under_eq_ok.mp hrow

/-- An empty list, which could be either, is taken for angles. -/
theorem settles_asOrientation : Settles asOrientation Orientation.toValue := by
  intro v o h
  rcases either_eq_ok.mp h with h | ⟨hangles, h⟩
  · obtain ⟨_, list, hstart, hlist, rfl⟩ := and_eq_ok.mp h
    obtain rfl := Except.ok.inj hstart
    exact either_eq_ok.mpr (.inl (and_ok rfl (settles_asNumbers v list hlist)))
  · obtain ⟨_, rows, hstart, hrows, rfl⟩ := and_eq_ok.mp h
    obtain rfl := Except.ok.inj hstart
    refine either_eq_ok.mpr (.inr ⟨fun o ho => ?_, and_ok rfl (settles_asGrid v rows hrows)⟩)
    obtain ⟨_, list, -, hlist, -⟩ := and_eq_ok.mp ho
    cases rows with
    | nil =>
      obtain rfl := items_eq_nil hrows
      exact hangles _ rfl
    | cons row rest => exact asNumbers_lists _ _ _ hlist

theorem settles_optionalText : Settles (optional asText) (.ofOption .text) :=
  settles_asText.optional (by simp)

theorem settles_runSection : Settles (table RunSection.check) RunSection.toValue := by
  intro v s hv
  obtain ⟨fields, h⟩ := table_eq_ok hv
  have htaken := RunSection.check_eq_ok.mp h
  exact RunSection.check_eq_ok.mpr {
    number := settles_asWhole.given rfl htaken.number rfl
    workers := settles_asWorkers.given rfl htaken.workers rfl
    progress := settles_asTruth.given rfl htaken.progress rfl
    diagnostics := settles_asWhole.ensure.given rfl htaken.diagnostics rfl
    events := settles_asWhole.given rfl htaken.events rfl
    seed := (settles_asWhole.optional (by simp)).given rfl htaken.seed rfl
    hitsPerDetector := settles_asNumber.given rfl htaken.hitsPerDetector rfl }

theorem settles_sourceSection : Settles (table SourceSection.check) SourceSection.toValue := by
  intro v s hv
  obtain ⟨fields, h⟩ := table_eq_ok hv
  have htaken := SourceSection.check_eq_ok.mp h
  exact SourceSection.check_eq_ok.mpr {
    outputDir := settles_asText.given rfl htaken.outputDir rfl
    format := settles_asFormat.given rfl htaken.format rfl
    inputPath := settles_optionalText.given rfl htaken.inputPath rfl
    input := htaken.input }

theorem settles_writerSection : Settles (table WriterSection.check) WriterSection.toValue := by
  intro v s hv
  obtain ⟨fields, h⟩ := table_eq_ok hv
  have htaken := WriterSection.check_eq_ok.mp h
  exact WriterSection.check_eq_ok.mpr {
    fileName := settles_asText.given rfl htaken.fileName rfl
    geometryFile := settles_optionalText.given rfl htaken.geometryFile rfl
    detectorName := settles_asText.given rfl htaken.detectorName rfl
    pixelType := settles_asPixelType.given rfl htaken.pixelType rfl
    truth := settles_asTruth.given rfl htaken.truth rfl
    eventType := settles_asWhole.given rfl htaken.eventType rfl
    collection := settles_optionalText.given rfl htaken.collection rfl
    assignment := (settles_asRows.optional (by simp [Value.ofList])).given rfl
      htaken.assignment rfl }

theorem settles_fieldSection : Settles (table FieldSection.check) FieldSection.toValue := by
  intro v s hv
  obtain ⟨fields, h⟩ := table_eq_ok hv
  have htaken := FieldSection.check_eq_ok.mp h
  exact FieldSection.check_eq_ok.mpr {
    kind := settles_asKind.given rfl htaken.kind rfl
    vector := settles_asNumbers.ensure.given rfl htaken.vector rfl
    gradient := (settles_asGrid.optional (by simp [Value.ofList])).given rfl htaken.gradient rfl }

theorem settles_detectorSection :
    Settles (table DetectorSection.check) DetectorSection.toValue := by
  intro v s hv
  obtain ⟨fields, h⟩ := table_eq_ok hv
  have htaken := DetectorSection.check_eq_ok.mp h
  exact DetectorSection.check_eq_ok.mpr {
    name := settles_asText.required htaken.name rfl
    type := settles_asText.given rfl htaken.type rfl
    position := settles_asNumbers.ensure.required htaken.position rfl
    orientation := settles_asOrientation.given rfl htaken.orientation rfl
    pixels := settles_asPixels.given rfl htaken.pixels rfl
    pixelSize := settles_asNumbers.ensure.given rfl htaken.pixelSize rfl
    thickness := settles_asNumber.given rfl htaken.thickness rfl
    excess := settles_asNumber.given rfl htaken.excess rfl
    chip := settles_asNumber.given rfl htaken.chip rfl }

end

theorem check_toFields {fields : Fields} {c : Config} (h : check fields = .ok c) :
    check c.toFields = .ok c := by
  have htaken := check_eq_ok.mp h
  exact check_eq_ok.mpr {
    run := settles_runSection.given rfl htaken.run rfl
    source := settles_sourceSection.given rfl htaken.source rfl
    writer := settles_writerSection.given rfl htaken.writer rfl
    field := settles_fieldSection.given rfl htaken.field rfl
    detectors := settles_detectorSection.items.required htaken.detectors rfl }

/-- A configuration that was accepted, whatever it was read from, is accepted as it is written out,
and is the same again. -/
theorem accepted_again {fields : Fields} {c : Config} (h : ofFields fields = .ok c) :
    ofFields c.toFields = .ok c := by
  have hcheck : check fields = .ok c := by
    unfold ofFields validated at h
    split at h
    · rename_i c' hc
      rw [hc, Except.ok.inj h]
    · contradiction
  rw [ofFields, check_toFields hcheck]
  rfl

def loose : Fields := [
  ("run", .table [("workers", .bool true), ("progress", .text "Off"), ("seed", .text " 0_7 "),
    ("hits_per_detector", .text " nan ")]),
  ("writer", .table [("pixel_type", .float 1.0),
    ("detector_assignment", .list [.list [.text "D1", .bool true, .int 7], .text "xy"])]),
  ("detectors", .list [
    .table [("name", .text "D1"), ("position", .list [.int 0, .text "1_0.5", .bool true]),
      ("orientation", .list []), ("number_of_pixels", .list [.text "+3.0", .bool true])],
    .table [("name", .text "D2"), ("position", .list [.int 0, .int 0, .int 0]),
      ("orientation", .list [.list [.int 1], .list []])]])]

theorem accepted_again_loose : ∃ c, ofFields loose = .ok c ∧ ofFields c.toFields = .ok c ∧
    c.run.workers = .count 1 ∧ c.run.seed = some 7 ∧
    c.writer.assignment = some [["D1", "True", "7"], ["x", "y"]] ∧
    c.detectors.map (·.pixels) = [[3, 1], [1152, 576]] := by
  have hvalues : (ofFields loose).toOption.any (fun c =>
      decide (c.run.workers = .count 1 ∧ c.run.seed = some 7 ∧
        c.writer.assignment = some [["D1", "True", "7"], ["x", "y"]] ∧
        c.detectors.map (·.pixels) = [[3, 1], [1152, 576]])) = true := by
    decide +kernel
  obtain ⟨c, hc, hvalues⟩ := any_toOption.mp hvalues
  exact ⟨c, hc, accepted_again hc, of_decide_eq_true hvalues⟩

end PixelTelescope.Config
