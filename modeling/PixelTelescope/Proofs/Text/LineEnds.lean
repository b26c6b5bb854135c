import PixelTelescope.Text.Newline

namespace PixelTelescope.Text

def fed (c : Char) : Char := if c = '\r' then '\n' else c

theorem fed_eq {c : Char} (h : c ≠ '\r') : fed c = c := if_neg h

theorem fed_eq_iff {c d : Char} (hfeed : d ≠ '\n') (hreturn : d ≠ '\r') : fed c = d ↔ c = d := by
  unfold fed
  split
  · rename_i hc
    exact ⟨fun h => absurd h.symm hfeed, fun h => absurd (h.symm.trans hc) hreturn⟩
  · exact Iff.rfl

/-- What tells the two line ends not apart. -/
theorem apply_fed {β : Type} {f : Char → β} (h : f '\n' = f '\r') (c : Char) :
    f (fed c) = f c := by
  by_cases hc : c = '\r'
  · rw [hc]
    exact h
  · rw [fed_eq hc]

theorem joinLineEnds_cons {cs : List Char} {c : Char}
    (h : c = '\r' → cs.head? ≠ some '\n') : joinLineEnds (c :: cs) = fed c :: joinLineEnds cs := by
  by_cases hc : c = '\r'
  · subst hc
    cases cs with
    | nil => rfl
    | cons d rest =>
      have hd : d ≠ '\n' := fun hd => h rfl (by rw [hd]; rfl)
      rw [joinLineEnds]
      · rfl
      · rintro more he
        exact hd (List.cons.inj he).1
  · rw [fed_eq hc, joinLineEnds]
    · rintro more he
      exact fun _ => hc he
    · exact hc

theorem joinLineEnds_of_not_mem {cs : List Char} (h : '\r' ∉ cs) : joinLineEnds cs = cs := by
  induction cs with
  | nil => rfl
  | cons c rest ih =>
    have hc : c ≠ '\r' := fun hc => h (hc ▸ List.mem_cons_self)
    rw [joinLineEnds_cons fun h => absurd h hc, fed_eq hc,
      ih fun hmem => h (List.mem_cons_of_mem _ hmem)]

/-- Texts can be read one after the other where no line end is cut in two. -/
theorem joinLineEnds_append {as bs : List Char}
    (h : as.getLast? = some '\r' → bs.head? ≠ some '\n') :
    joinLineEnds (as ++ bs) = joinLineEnds as ++ joinLineEnds bs := by
  fun_induction joinLineEnds as with
  | case1 rest ih =>
    have hrest : rest.getLast? = some '\r' → bs.head? ≠ some '\n' := fun hlast =>
      h (by simp [List.getLast?_cons, hlast])
    rw [List.cons_append, List.cons_append, joinLineEnds, ih hrest, List.cons_append]
  | case2 rest hno ih =>
    have hrest : rest.getLast? = some '\r' → bs.head? ≠ some '\n' := fun hlast =>
      h (by simp [List.getLast?_cons, hlast])
    rw [List.cons_append, joinLineEnds_cons, ih hrest]
    · rfl
    · intro _
      cases rest with
      | nil => exact h rfl
      | cons d more => simpa using fun hd => hno more (by rw [hd])
  | case3 d rest hpair hreturn ih =>
    have hrest : rest.getLast? = some '\r' → bs.head? ≠ some '\n' := fun hlast =>
      h (by simp [List.getLast?_cons, hlast])
    rw [List.cons_append, joinLineEnds_cons fun hd => absurd hd hreturn, ih hrest, fed_eq hreturn,
      List.cons_append]
  | case4 => rfl

theorem joinLineEnds_concat {cs : List Char} {c : Char}
    (h : c = '\n' → cs.getLast? ≠ some '\r') :
    joinLineEnds (cs ++ [c]) = joinLineEnds cs ++ [fed c] := by
  rw [joinLineEnds_append, joinLineEnds_cons (by simp)]
  · rfl
  · intro hlast hhead
    exact h (by simpa using hhead) hlast

theorem joinLineEnds_pair {cs : List Char} (h : cs.getLast? = some '\r') :
    joinLineEnds (cs ++ ['\n']) = joinLineEnds cs := by
  obtain ⟨start, rfl⟩ := List.getLast?_eq_some_iff.mp h
  have hpair : joinLineEnds (start ++ ['\r', '\n']) = joinLineEnds start ++ ['\n'] :=
    joinLineEnds_append (by simp)
  rw [List.append_assoc, joinLineEnds_concat (by simp)]
  exact hpair

/-- Behind any other character a line feed stands for itself. -/
theorem joinLineEnds_behind {cs : List Char} {c d : Char} (hfeed : d ≠ '\n') (hreturn : d ≠ '\r') :
    joinLineEnds (cs ++ [d, c]) = joinLineEnds cs ++ [d, fed c] := by
  rw [joinLineEnds_append (by simpa using fun _ => hfeed),
    joinLineEnds_cons fun h => absurd h hreturn, fed_eq hreturn, joinLineEnds_cons (by simp)]
  rfl

end PixelTelescope.Text
