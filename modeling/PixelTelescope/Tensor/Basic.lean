import PixelTelescope.Failure

namespace PixelTelescope

/-- Numbers on a grid of any rank, the last axis running fastest. -/
structure Tensor (α : Type) where
  sizes : List Nat
  entries : List α
  deriving Repr, DecidableEq

namespace Tensor

variable {α : Type}

/-- The positions of a grid, the last axis running fastest. -/
def positions : List Nat → List (List Nat)
  | [] => [[]]
  | n :: rest => (List.range n).flatMap fun i => (positions rest).map (i :: ·)

def offset : List Nat → List Nat → Nat
  | _ :: sizes, i :: rest => i * sizes.foldl (· * ·) 1 + offset sizes rest
  | _, _ => 0

def entry? (t : Tensor α) (position : List Nat) : Option α :=
  t.entries[offset t.sizes position]?

def scalar (x : α) : Tensor α := ⟨[], [x]⟩

def vector (xs : List α) : Tensor α := ⟨[xs.length], xs⟩

/-- Rows of equal length. -/
def ofRows (rows : List (List α)) : Except ShapeFault (Tensor α) :=
  match rows with
  | [] => .ok ⟨[0], []⟩
  | row :: rest =>
    if rest.all fun other => other.length = row.length then
      .ok ⟨[rows.length, row.length], rows.flatten⟩
    else .error .ragged

def map {β : Type} (f : α → β) (t : Tensor α) : Tensor β := ⟨t.sizes, t.entries.map f⟩

def zeros [Scalar α] (sizes : List Nat) : Tensor α :=
  ⟨sizes, List.replicate (sizes.foldl (· * ·) 1) 0.0⟩

/-- The items along the first axis. -/
def rows (t : Tensor α) : List (Tensor α) :=
  match t.sizes with
  | [] => []
  | n :: rest =>
    let step := rest.foldl (· * ·) 1
    (List.range n).map fun i => ⟨rest, (t.entries.drop (i * step)).take step⟩

def row? (t : Tensor α) (i : Nat) : Except ShapeFault (Tensor α) :=
  match t.rows[i]? with
  | some row => .ok row
  | none => .error .missingIndex

def single? (t : Tensor α) : Except ShapeFault α :=
  match t.entries with
  | [x] => .ok x
  | _ => .error .notScalar

/-- Sizes matched from the last axis on, where one entry serves for many; both lists are given
from the last axis. -/
def matchSizes : List Nat → List Nat → Option (List Nat)
  | [], bs => some bs
  | as, [] => some as
  | a :: as, b :: bs =>
    if a = b || b = 1 then (matchSizes as bs).map (a :: ·)
    else if a = 1 then (matchSizes as bs).map (b :: ·)
    else none

def commonSizes (as bs : List Nat) : Except ShapeFault (List Nat) :=
  match matchSizes as.reverse bs.reverse with
  | some sizes => .ok sizes.reverse
  | none => .error .mismatched

/-- The position in a tensor of these sizes that stands for a position in a larger one. -/
def narrowed (sizes position : List Nat) : List Nat :=
  (sizes.zip (position.drop (position.length - sizes.length))).map fun (n, i) =>
    if n = 1 then 0 else i

def combine (f : α → α → α) (a b : Tensor α) : Except ShapeFault (Tensor α) := do
  let sizes ← commonSizes a.sizes b.sizes
  let entries := (positions sizes).filterMap fun position => do
    let x ← a.entry? (narrowed a.sizes position)
    let y ← b.entry? (narrowed b.sizes position)
    some (f x y)
  return ⟨sizes, entries⟩

def add [Scalar α] (a b : Tensor α) : Except ShapeFault (Tensor α) := combine (· + ·) a b

/-- Sum of products, from the first pair on. -/
def dot [Scalar α] (pairs : List (α × α)) : α :=
  pairs.foldl (fun sum (x, y) => sum + x * y) 0.0

/-- Product of batches of matrices with their row and column counts. -/
def multiplyBatches [Scalar α] (a b : Tensor α) (batchA batchB : List Nat) (n k m : Nat) :
    Except ShapeFault (List Nat × List α) := do
  let batch ← commonSizes batchA batchB
  let entries := (positions batch).flatMap fun position =>
    (List.range n).flatMap fun i => (List.range m).map fun j =>
      dot <| (List.range k).filterMap fun l => do
        let x ← a.entry? (narrowed batchA position ++ [i, l])
        let y ← b.entry? (narrowed batchB position ++ [l, j])
        some (x, y)
  return (batch, entries)

/-- The matrix product. A vector stands for a row on the left and for a column on the right. -/
def multiply [Scalar α] (a b : Tensor α) : Except ShapeFault (Tensor α) := do
  let (left, batchA, n, k) ← match a.sizes.reverse with
    | [] => .error .mismatched
    | [k] => .ok (Tensor.mk [1, k] a.entries, [], 1, k)
    | k :: n :: rest => .ok (a, rest.reverse, n, k)
  let (right, batchB, k', m) ← match b.sizes.reverse with
    | [] => .error .mismatched
    | [k'] => .ok (Tensor.mk [k', 1] b.entries, [], k', 1)
    | m :: k' :: rest => .ok (b, rest.reverse, k', m)
  if k ≠ k' then .error .mismatched
  else
    let (batch, entries) ← multiplyBatches left right batchA batchB n k m
    let rowAxis := if a.sizes.length = 1 then [] else [n]
    let columnAxis := if b.sizes.length = 1 then [] else [m]
    return ⟨batch ++ rowAxis ++ columnAxis, entries⟩

end Tensor

end PixelTelescope
