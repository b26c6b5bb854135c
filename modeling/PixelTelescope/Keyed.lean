namespace PixelTelescope.Keyed

variable {κ β : Type} [DecidableEq κ]

/-- The value under a key in a list of pairs. -/
def get? (key : κ) : List (κ × β) → Option β
  | [] => none
  | (k, v) :: rest => if k = key then some v else get? key rest

def contains (key : κ) (pairs : List (κ × β)) : Bool := (get? key pairs).isSome

/-- Replaces the value under a key where it stands; a new key goes to the end. -/
def put (key : κ) (value : β) : List (κ × β) → List (κ × β)
  | [] => [(key, value)]
  | (k, v) :: rest => if k = key then (key, value) :: rest else (k, v) :: put key value rest

/-- One pair for each key, the last value given for it. -/
def ofPairs (pairs : List (κ × β)) : List (κ × β) :=
  pairs.foldl (fun kept pair => put pair.1 pair.2 kept) []

def erase (key : κ) (pairs : List (κ × β)) : List (κ × β) := pairs.filter (·.1 ≠ key)

end PixelTelescope.Keyed
