import Mathlib.Data.List.Basic
import PixelTelescope.Config.Load
import PixelTelescope.Proofs.Outcome

namespace PixelTelescope.Config

namespace Checked

variable {β γ : Type} {name : String} {fields : List (String × Value)} {step : Step} {rule : Rule}
  {holds : β → Bool} {check : Value → Checked β} {default x : β} {v : Value}

/-- A check that is carried through: what it refuses, it refuses with a list of issues. -/
def Listed (c : Checked β) : Prop := c ≠ .error .notIterable

@[simp] theorem listed_ok : Listed (.ok x) := by simp [Listed]

@[simp] theorem listed_start : (start x).Listed := listed_ok

@[simp] theorem listed_issues {list : List Issue} : Listed (β := β) (.error (.issues list)) := by
  simp [Listed]

@[simp] theorem listed_refuse {complaint : Complaint} : (refuse (α := β) complaint).Listed :=
  listed_issues

@[simp] theorem not_listed_notIterable : ¬ Listed (β := β) (.error .notIterable) := by
  simp [Listed]

@[simp] theorem listed_under {c : Checked β} : (c.under step).Listed ↔ c.Listed := by
  cases c with
  | ok y => simp [under]
  | error r => cases r <;> simp [under, Refusal.under]

/-- Of two parts, one that breaks off is not made up for by the other. -/
@[simp] theorem listed_and {f : Checked (β → γ)} {c : Checked β} :
    (f.and c).Listed ↔ f.Listed ∧ c.Listed := by
  cases f with
  | ok make => cases c <;> simp [and, Listed]
  | error r =>
    cases c with
    | ok y => simp [and, Listed]
    | error s => cases r <;> cases s <;> simp [and, Refusal.join]

@[simp] theorem listed_ensure {c : Checked β} : (c.ensure holds rule).Listed ↔ c.Listed := by
  cases c with
  | ok y =>
    rw [ensure]
    split <;> simp
  | error r => rfl

/-- A field that is left out is not looked at. -/
@[simp] theorem listed_given :
    (given name fields default check).Listed ↔
      ∀ v, Value.field? name fields = some v → (check v).Listed := by
  unfold given
  split <;> simp_all

@[simp] theorem listed_required :
    (required name fields check).Listed ↔
      ∀ v, Value.field? name fields = some v → (check v).Listed := by
  unfold required
  split <;> simp_all

theorem listed_itemsFrom (h : ∀ v, (check v).Listed) (n : Nat) (vs : List Value) :
    (itemsFrom check n vs).Listed := by
  induction vs generalizing n with
  | nil => simp [itemsFrom]
  | cons v rest ih => simp [itemsFrom, h v, ih (n + 1)]

theorem listed_items (h : ∀ v, (check v).Listed) : (items check v).Listed := by
  unfold items
  split
  · exact listed_itemsFrom h _ _
  · exact listed_refuse

@[simp] theorem listed_optional : (optional check v).Listed ↔ v = .null ∨ (check v).Listed := by
  unfold optional
  split
  · simp
  · rename_i hv
    cases hc : check v with
    | ok y => simp
    | error r => simpa [Listed] using fun h => absurd h hv

theorem listed_either {first second : String} {left right : Value → Checked β}
    (hl : (left v).Listed) (hr : (right v).Listed) : (either first left second right v).Listed := by
  unfold either
  cases hfirst : left v with
  | ok y => simp
  | error r =>
    cases hsecond : right v with
    | ok y => simp
    | error s =>
      rw [hfirst] at hl
      rw [hsecond] at hr
      cases r with
      | issues list =>
        cases s with
        | issues more => simp [Refusal.under, Refusal.join]
        | notIterable => exact absurd hr not_listed_notIterable
      | notIterable => exact absurd hl not_listed_notIterable

end Checked

open Checked

variable {fields : Fields} {v : Value}

@[simp] theorem listed_accept {α : Type} {x : Except Complaint α} : (accept x).Listed := by
  cases x <;> simp [accept]

@[simp] theorem listed_asText : (asText v).Listed := by
  cases v <;> simp [asText]

@[simp] theorem listed_asWhole : (asWhole v).Listed := by
  cases v <;> simp [asWhole]

@[simp] theorem listed_asNumber : (asNumber v).Listed := by
  unfold asNumber
  repeat' split
  all_goals simp

@[simp] theorem listed_truthOfWhole {n : Int} : (truthOfWhole n).Listed := by
  unfold truthOfWhole
  repeat' split
  all_goals simp

@[simp] theorem listed_asTruth : (asTruth v).Listed := by
  cases v with
  | text s =>
    simp only [asTruth]
    repeat' split
    all_goals simp
  | float x =>
    simp only [asTruth]
    split <;> simp
  | int n =>
    simp only [asTruth]
    split <;> simp
  | _ => simp [asTruth]

@[simp] theorem listed_asChoice {α : Type} {choose : Value → Option α} :
    (asChoice choose v).Listed := by
  unfold asChoice
  split <;> simp

@[simp] theorem listed_asWord {α : Type} {ofText? : String → Option α} :
    (asWord ofText? v).Listed := listed_asChoice

@[simp] theorem listed_asWorkers : (asWorkers v).Listed :=
  listed_either (by simp) listed_asWord

@[simp] theorem listed_asNumbers : (asNumbers v).Listed := listed_items fun _ => listed_asNumber

@[simp] theorem listed_asGrid : (asGrid v).Listed := listed_items fun _ => listed_asNumbers

@[simp] theorem listed_asOrientation : (asOrientation v).Listed :=
  listed_either (by simp) (by simp)

@[simp] theorem listed_asPixels : (asPixels v).Listed := by
  simpa [asPixels] using listed_items fun _ => listed_asWhole

@[simp] theorem listed_runSection : (RunSection.check fields).Listed := by
  simp [RunSection.check, asDiagnostics]

@[simp] theorem listed_sourceSection : (SourceSection.check fields).Listed := by
  simp [SourceSection.check]

@[simp] theorem listed_fieldSection : (FieldSection.check fields).Listed := by
  simp [FieldSection.check]

@[simp] theorem listed_detectorSection : (DetectorSection.check fields).Listed := by
  simp [DetectorSection.check]

/-- A value whose items have items themselves: lists, texts and tables do. -/
def HasRows (v : Value) : Prop :=
  ∃ rows, v.items? = some rows ∧ ∀ row ∈ rows, ∃ cells, row.items? = some cells

theorem mapM_eq_some {α β : Type} {f : α → Option β} {xs : List α} :
    (∃ ys, xs.mapM f = some ys) ↔ ∀ x ∈ xs, ∃ y, f x = some y := by
  induction xs with
  | nil => simp
  | cons x rest ih =>
    rw [List.forall_mem_cons, ← ih, List.mapM_cons]
    cases f x with
    | none => simp
    | some y =>
      cases rest.mapM f with
      | none => simp
      | some ys => simp

theorem hasRows_iff : HasRows v ↔ ∃ texts, v.items?.bind (·.mapM displayed) = some texts := by
  unfold HasRows
  cases v.items? with
  | none => simp
  | some rows => simp [mapM_eq_some, displayed]

/-- Values become rows of texts exactly where there are rows: how their cells look plays no part. -/
@[simp] theorem listed_asRows : (asRows v).Listed ↔ HasRows v := by
  rw [hasRows_iff]
  unfold asRows
  cases v.items?.bind (·.mapM displayed) with
  | none => simp
  | some texts => simp

def assignment? (fields : Fields) : Option Value :=
  match Value.field? "writer" fields with
  | some (.table settings) => Value.field? "detector_assignment" settings
  | _ => none

def Assigns (fields : Fields) : Prop :=
  ∀ v, assignment? fields = some v → v = .null ∨ HasRows v

def Readable (text : String) : Prop := ∀ fields, Toml.read text = .ok fields → Assigns fields

def numbered : String :=
  "writer.detector_assignment = 5\n[[detectors]]\nname = 'D1'\nposition = [0, 0, 0]\n"

end PixelTelescope.Config
