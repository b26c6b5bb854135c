import PixelTelescope.Markup.Dashes

namespace PixelTelescope.Markup

def between (a b : Char) : List Char := if a = '-' ∧ b = '-' then [' '] else []

def parted : List Char → List Char
  | a :: b :: rest => a :: between a b ++ parted (b :: rest)
  | cs => cs

/-- The loop that parts pairs makes so many passes over the first text, one as long as a pair is
left, and ends with the second. -/
inductive Passes : Nat → List Char → List Char → Prop
  | done {cs : List Char} (h : hasPair cs = false) : Passes 0 cs cs
  | pass {n : Nat} {cs result : List Char} (h : hasPair cs = true)
      (rest : Passes n (partOnce cs) result) : Passes (n + 1) cs result

variable {c : Char} {cs : List Char}

def Apart (c : Char) (cs : List Char) : Prop := c ≠ '-' ∨ cs.head? ≠ some '-'

theorem apart_of_no_pair (h : ∀ more, c = '-' → cs = '-' :: more → False) : Apart c cs := by
  by_cases hc : c = '-'
  · refine .inr fun hd => ?_
    obtain ⟨more, hm⟩ := List.head?_eq_some_iff.mp hd
    exact h more hc hm
  · exact .inl hc

theorem Apart.no_pair (h : Apart c cs) (more : List Char) (hc : c = '-') (hcs : cs = '-' :: more) :
    False := by
  rcases h with h | h
  · exact h hc
  · exact h (by rw [hcs]; rfl)

theorem Apart.hasPair_cons (h : Apart c cs) : hasPair (c :: cs) = hasPair cs := by
  rw [hasPair]
  exact h.no_pair

theorem Apart.partOnce_cons (h : Apart c cs) : partOnce (c :: cs) = c :: partOnce cs := by
  rw [partOnce]
  exact h.no_pair

theorem Apart.parted_cons (h : Apart c cs) : parted (c :: cs) = c :: parted cs := by
  cases cs with
  | nil => rfl
  | cons d more =>
    have hd : ¬ (c = '-' ∧ d = '-') := fun hd => h.no_pair more hd.1 (by rw [hd.2])
    simp [parted, between, hd]

theorem parted_pair (cs : List Char) :
    parted ('-' :: '-' :: cs) = '-' :: ' ' :: parted ('-' :: cs) := by
  simp [parted, between]

theorem head?_parted (cs : List Char) : (parted cs).head? = cs.head? := by
  fun_cases parted cs <;> simp

theorem hasPair_cons (h : c ≠ '-') : hasPair (c :: cs) = hasPair cs :=
  Apart.hasPair_cons (.inl h)

/-- A character that is no dash keeps the dashes on its sides apart. -/
theorem hasPair_append {as bs : List Char} (h : c ≠ '-') :
    hasPair (as ++ c :: bs) = (hasPair as || hasPair bs) := by
  fun_induction hasPair as with
  | case1 rest => simp [hasPair]
  | case2 a rest hno ih =>
    have hapart : Apart a (rest ++ c :: bs) := by
      refine (apart_of_no_pair hno).imp_right fun hr => ?_
      cases rest with
      | nil => simpa using h
      | cons d more => simpa using hr
    rw [List.cons_append, hapart.hasPair_cons, ih]
  | case3 => simp [hasPair_cons h]

theorem hasPair_iff_infix : hasPair cs = true ↔ ['-', '-'] <:+: cs := by
  fun_induction hasPair cs with
  | case1 rest => simpa using (List.prefix_append ['-', '-'] rest).isInfix
  | case2 c rest hno ih =>
    have hp : ¬ ['-', '-'] <+: c :: rest := by
      rintro ⟨more, hm⟩
      obtain ⟨hc, hrest⟩ := List.cons.inj hm
      exact hno more hc.symm hrest.symm
    rw [ih, List.infix_cons_iff, or_iff_right hp]
  | case3 => simp

theorem partOnce_of_no_pair (h : hasPair cs = false) : partOnce cs = cs := by
  fun_induction hasPair cs with
  | case1 rest => contradiction
  | case2 c rest hno ih => rw [(apart_of_no_pair hno).partOnce_cons, ih h]
  | case3 => rfl

theorem parted_of_no_pair (h : hasPair cs = false) : parted cs = cs := by
  fun_induction hasPair cs with
  | case1 rest => contradiction
  | case2 c rest hno ih => rw [(apart_of_no_pair hno).parted_cons, ih h]
  | case3 => rfl

theorem hasPair_parted (cs : List Char) : hasPair (parted cs) = false := by
  fun_induction parted cs with
  | case1 a b rest ih =>
    by_cases hpair : a = '-' ∧ b = '-'
    · obtain ⟨rfl, rfl⟩ := hpair
      simpa [between, hasPair] using ih
    · have hapart : Apart a (parted (b :: rest)) := by
        rw [Apart, head?_parted, List.head?_cons, ne_eq, ne_eq, Option.some.injEq]
        exact Decidable.not_and_iff_not_or_not.mp hpair
      simpa [between, hpair, hapart.hasPair_cons] using ih
  | case2 cs hno =>
    cases cs with
    | nil => rfl
    | cons a rest =>
      cases rest with
      | nil => simp [hasPair]
      | cons b more => exact (hno a b more rfl).elim

/-- Two dashes never stand next to each other at the start of what a pass leaves, since it goes on
behind the pair. -/
theorem partOnce_ne_pair (cs more : List Char) : partOnce cs ≠ '-' :: '-' :: more := by
  fun_cases partOnce cs with
  | case1 rest => simp
  | case2 c rest hno =>
    intro he
    obtain ⟨hc, hrest⟩ := List.cons.inj he
    have hhead := congrArg List.head? hrest
    rw [head?_partOnce] at hhead
    rcases apart_of_no_pair hno with h | h
    · exact h hc
    · exact h hhead
  | case3 => simp

/-- A dash in front of what a pass leaves makes one pair at most, which the next pass parts. -/
theorem partOnce_dash (h : ∀ more, cs ≠ '-' :: '-' :: more) :
    partOnce ('-' :: cs) = '-' :: (if cs.head? = some '-' then [' '] else []) ++ partOnce cs := by
  split
  · rename_i hd
    obtain ⟨rest, rfl⟩ := List.head?_eq_some_iff.mp hd
    have hapart : Apart '-' rest := apart_of_no_pair fun more _ hr => h more (by rw [hr])
    rw [partOnce, hapart.partOnce_cons]
    rfl
  · rename_i hd
    exact Apart.partOnce_cons (.inr hd)

theorem parted_dash (cs : List Char) :
    parted ('-' :: cs) = '-' :: (if cs.head? = some '-' then [' '] else []) ++ parted cs := by
  split
  · rename_i hd
    obtain ⟨rest, rfl⟩ := List.head?_eq_some_iff.mp hd
    exact parted_pair rest
  · rename_i hd
    exact Apart.parted_cons (.inr hd)

/-- The second pass parts the pairs that the first one left where two of its places meet. -/
theorem partOnce_partOnce (cs : List Char) : partOnce (partOnce cs) = parted cs := by
  fun_induction partOnce cs with
  | case1 rest ih =>
    have hspace (ds : List Char) : Apart '-' (' ' :: ds) := .inr (by simp)
    have hblank (ds : List Char) : Apart ' ' ds := .inl (by decide)
    rw [(hspace _).partOnce_cons, (hblank _).partOnce_cons, partOnce_dash (partOnce_ne_pair rest),
      head?_partOnce, ih, parted_pair, parted_dash]
  | case2 c rest hno ih =>
    have hapart := apart_of_no_pair hno
    have hparted : Apart c (partOnce rest) := by rwa [Apart, head?_partOnce]
    rw [hparted.partOnce_cons, ih, hapart.parted_cons]
  | case3 => rfl

/-- A pass leaves what is to come of the text as it is. -/
theorem parted_partOnce (cs : List Char) : parted (partOnce cs) = parted cs := by
  rw [← partOnce_partOnce, partOnce_partOnce cs, partOnce_of_no_pair (hasPair_parted cs)]

theorem Passes.eq_parted {n : Nat} {result : List Char} (h : Passes n cs result) :
    result = parted cs := by
  induction h with
  | done h => exact (parted_of_no_pair h).symm
  | pass _ _ ih => rw [ih, parted_partOnce]

theorem Passes.le_two {n : Nat} {result : List Char} (h : Passes n cs result) : n ≤ 2 := by
  rcases h with h | ⟨-, h | ⟨-, h | ⟨h, -⟩⟩⟩
  · omega
  · omega
  · omega
  · rw [partOnce_partOnce, hasPair_parted] at h
    contradiction

/-- In a row of three dashes the second pair is left to the second pass. -/
example : hasPair (partOnce "---".toList) = true := by decide

theorem passes_separated (cs : List Char) : ∃ n, Passes n cs (separated cs) := by
  fun_induction separated cs with
  | case1 cs h ih =>
    obtain ⟨n, hn⟩ := ih
    exact ⟨n + 1, .pass h hn⟩
  | case2 cs h => exact ⟨0, .done (by simpa using h)⟩

/-- The loop puts a blank between each two dashes, and does nothing else. -/
theorem separated_eq_parted (cs : List Char) : separated cs = parted cs := by
  obtain ⟨n, hn⟩ := passes_separated cs
  exact hn.eq_parted

theorem mem_separated (h : c ∈ separated cs) : c ∈ cs ∨ c = ' ' := by
  rw [separated_eq_parted] at h
  fun_induction parted cs with
  | case1 a b rest ih =>
    simp only [List.cons_append, List.mem_cons, List.mem_append] at h ih ⊢
    rcases h with h | h | h
    · exact .inl (.inl h)
    · unfold between at h
      split at h
      · exact .inr (List.mem_singleton.mp h)
      · contradiction
    · exact (ih h).imp_left .inr
  | case2 => exact .inl h

/-- There is one blank more for each place at which two dashes stand next to each other. -/
theorem length_parted (cs : List Char) : (parted cs).length = cs.length + pairs cs := by
  fun_induction pairs cs with
  | case1 rest ih =>
    rw [parted_pair, List.length_cons, List.length_cons, ih]
    simp only [List.length_cons]
    omega
  | case2 c rest hno ih =>
    rw [(apart_of_no_pair hno).parted_cons, List.length_cons, ih, List.length_cons]
    omega
  | case3 => rfl

end PixelTelescope.Markup
