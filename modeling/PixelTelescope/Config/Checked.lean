import PixelTelescope.Config.Issue
import PixelTelescope.Value.Basic

namespace PixelTelescope.Config

/-- Why a configuration is turned down. -/
inductive Refusal where
  | issues (list : List Issue)
  /-- A table of rows is something that has no items at all. -/
  | notIterable
  deriving Repr, DecidableEq

namespace Refusal

def under (step : Step) : Refusal → Refusal
  | .issues list => .issues (list.map (·.under step))
  | .notIterable => .notIterable

/-- What is wrong with two values that stand one after the other. -/
def join : Refusal → Refusal → Refusal
  | .issues first, .issues second => .issues (first ++ second)
  | _, _ => .notIterable

end Refusal

abbrev Checked (α : Type) := Except Refusal α

namespace Checked

variable {α β : Type}

/-- How the check of a structure starts: with its constructor. -/
def start (make : α) : Checked α := .ok make

def refuse (complaint : Complaint) : Checked α := .error (.issues [⟨[], complaint⟩])

def under (step : Step) : Checked α → Checked α
  | .ok x => .ok x
  | .error r => .error (r.under step)

/-- Checks one more part, and goes on to it also after a part that was refused. -/
def and (f : Checked (α → β)) (x : Checked α) : Checked β :=
  match f, x with
  | .ok f, .ok x => .ok (f x)
  | .error r, .ok _ => .error r
  | .ok _, .error r => .error r
  | .error r, .error s => .error (r.join s)

def ensure (holds : α → Bool) (rule : Rule) : Checked α → Checked α
  | .ok x => if holds x then .ok x else refuse (.rule rule)
  | .error r => .error r

def itemsFrom (check : Value → Checked α) : Nat → List Value → Checked (List α)
  | _, [] => .ok []
  | n, v :: rest =>
    (and (.ok List.cons) ((check v).under (.index n))).and (itemsFrom check (n + 1) rest)

/-- Every item of a list, each under its place. -/
def items (check : Value → Checked α) : Value → Checked (List α)
  | .list vs => itemsFrom check 0 vs
  | _ => refuse .notList

def optional (check : Value → Checked α) : Value → Checked (Option α)
  | .null => .ok none
  | v =>
    match check v with
    | .ok x => .ok (some x)
    | .error r => .error r

def table (check : List (String × Value) → Checked α) : Value → Checked α
  | .table fields => check fields
  | _ => refuse .notSection

/-- A field that has a value when it is left out. -/
def given (name : String) (fields : List (String × Value)) (default : α)
    (check : Value → Checked α) : Checked α :=
  match Value.field? name fields with
  | some v => (check v).under (.field name)
  | none => .ok default

def required (name : String) (fields : List (String × Value)) (check : Value → Checked α) :
    Checked α :=
  match Value.field? name fields with
  | some v => (check v).under (.field name)
  | none => (refuse .missing).under (.field name)

end Checked

end PixelTelescope.Config
