namespace PixelTelescope.Markup

/-- Whether two dashes stand next to each other. -/
def hasPair : List Char → Bool
  | '-' :: '-' :: _ => true
  | _ :: rest => hasPair rest
  | [] => false

/-- The number of places at which two dashes stand next to each other. -/
def pairs : List Char → Nat
  | '-' :: '-' :: rest => 1 + pairs ('-' :: rest)
  | _ :: rest => pairs rest
  | [] => 0

/-- One pass from left to right that parts every pair of dashes and goes on behind it. -/
def partOnce : List Char → List Char
  | '-' :: '-' :: rest => '-' :: ' ' :: '-' :: partOnce rest
  | c :: rest => c :: partOnce rest
  | [] => []

theorem pairs_dash (cs : List Char) :
    pairs ('-' :: cs) = (if cs.head? = some '-' then 1 else 0) + pairs cs := by
  cases cs with
  | nil => simp [pairs]
  | cons c rest =>
    by_cases h : c = '-'
    · subst h; simp [pairs]
    · simp [pairs, h]

theorem head?_partOnce (cs : List Char) : (partOnce cs).head? = cs.head? := by
  fun_cases partOnce cs <;> simp

theorem pairs_space (cs : List Char) : pairs (' ' :: cs) = pairs cs := by simp [pairs]

theorem pairs_partOnce (cs : List Char) :
    pairs (partOnce cs) + (if hasPair cs then 1 else 0) ≤ pairs cs := by
  fun_induction partOnce cs with
  | case1 rest ih =>
    simp only [pairs_dash, pairs_space, head?_partOnce, hasPair, List.head?_cons]
    split at ih <;> simp <;> omega
  | case2 c rest h ih =>
    by_cases hc : c = '-'
    · subst hc
      have hr : rest.head? ≠ some '-' := by
        intro hr
        cases rest with
        | nil => simp at hr
        | cons d more =>
          simp only [List.head?_cons, Option.some.injEq] at hr
          exact h more rfl (by rw [hr])
      have hp : hasPair ('-' :: rest) = hasPair rest := by
        cases rest with
        | nil => simp [hasPair]
        | cons d more =>
          simp only [List.head?_cons, ne_eq, Option.some.injEq] at hr
          simp [hasPair, hr]
      simpa [pairs_dash, head?_partOnce, hr, hp] using ih
    · simpa [pairs, hasPair, hc] using ih
  | case3 => simp [pairs, hasPair]

/-- A text in which no two dashes stand next to each other: pairs are parted until none is left. -/
def separated (cs : List Char) : List Char :=
  if hasPair cs then separated (partOnce cs) else cs
termination_by pairs cs
decreasing_by
  rename_i h
  have fewer := pairs_partOnce cs
  rw [if_pos h] at fewer
  omega

end PixelTelescope.Markup
