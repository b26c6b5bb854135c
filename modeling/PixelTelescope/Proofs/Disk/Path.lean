import PixelTelescope.Disk.Path

namespace PixelTelescope.Path

structure IsStep (part : String) : Prop where
  ne_empty : part ≠ ""
  ne_point : part ≠ "."
  no_slash : '/' ∉ part.toList

/-- The paths that a text can be read as. -/
structure Normal (p : Path) : Prop where
  root : p.root = "" ∨ p.root = "/" ∨ p.root = "//"
  parts : ∀ part ∈ p.parts, IsStep part

theorem slash_not_mem_of_mem_splitOn {cs piece : List Char} (h : piece ∈ cs.splitOn '/') :
    '/' ∉ piece := by
  induction cs generalizing piece with
  | nil =>
    rw [List.splitOn_nil, List.mem_singleton] at h
    simp [h]
  | cons c rest ih =>
    rw [List.splitOn_cons_eq_if_modifyHead] at h
    split at h
    · rcases List.mem_cons.mp h with rfl | h
      · exact List.not_mem_nil
      · exact ih h
    · rename_i hc
      have hslash : '/' ≠ c := fun he => hc (he ▸ rfl)
      cases hs : rest.splitOn '/' with
      | nil => simp [hs] at h
      | cons first others =>
        rw [hs] at h ih
        rcases List.mem_cons.mp h with rfl | h
        · simp [hslash, ih List.mem_cons_self]
        · exact ih (List.mem_cons_of_mem _ h)

theorem partsOf_isStep {s part : String} (h : part ∈ partsOf s) : IsStep part := by
  simp only [partsOf, List.mem_filter, List.mem_map, Bool.and_eq_true, decide_eq_true_eq] at h
  obtain ⟨⟨piece, hp, rfl⟩, hne, hpoint⟩ := h
  refine ⟨hne, hpoint, ?_⟩
  rw [String.toList_ofList]
  exact slash_not_mem_of_mem_splitOn hp

theorem rootOf_cases (cs : List Char) : rootOf cs = "" ∨ rootOf cs = "/" ∨ rootOf cs = "//" := by
  unfold rootOf
  split <;> simp

theorem ofText_normal (s : String) : (ofText s).Normal :=
  ⟨rootOf_cases _, fun _ h => partsOf_isStep h⟩

@[simp] theorem partsOf_slash (s : String) : partsOf ("/" ++ s) = partsOf s := by
  simp [partsOf, List.splitOn_cons_eq_if_modifyHead]

theorem partsOf_intercalate {parts : List String} (h : ∀ part ∈ parts, IsStep part) :
    partsOf ("/".intercalate parts) = parts := by
  by_cases hne : parts = []
  · subst hne
    rfl
  have hslash : ∀ l ∈ parts.map String.toList, '/' ∉ l := by
    intro l hl
    obtain ⟨part, hp, rfl⟩ := List.mem_map.mp hl
    exact (h part hp).no_slash
  have hsplit : ("/".intercalate parts).toList.splitOn '/' = parts.map String.toList := by
    rw [String.toList_intercalate]
    exact List.splitOn_intercalate '/' hslash (by simpa using hne)
  rw [partsOf, hsplit, List.map_map]
  simp only [Function.comp_def, String.ofList_toList, List.map_id']
  apply List.filter_eq_self.mpr
  intro part hp
  simp [(h part hp).ne_empty, (h part hp).ne_point]

theorem rootOf_of_not_slash {c : Char} (hc : c ≠ '/') (cs : List Char) :
    rootOf (c :: cs) = "" ∧ rootOf ('/' :: c :: cs) = "/" ∧
      rootOf ('/' :: '/' :: c :: cs) = "//" := by
  simp [rootOf, hc]

/-- The text of a path that goes anywhere begins with its root, and then with no slash. -/
theorem text_eq {p : Path} (h : p.Normal) (hne : p.parts ≠ []) :
    p.text = p.root ++ "/".intercalate p.parts ∧
      ∃ c cs, c ≠ '/' ∧ ("/".intercalate p.parts).toList = c :: cs := by
  obtain ⟨first, rest, hparts⟩ := List.exists_cons_of_ne_nil hne
  have hfirst : IsStep first := h.parts first (by simp [hparts])
  obtain ⟨c, cs, hc⟩ :=
    List.exists_cons_of_ne_nil (by simpa using hfirst.ne_empty : first.toList ≠ [])
  have hslash : c ≠ '/' := by
    rintro rfl
    exact hfirst.no_slash (by simp [hc])
  have hall : ∃ cs, ("/".intercalate p.parts).toList = c :: cs := by
    rw [hparts, String.toList_intercalate, List.map_cons, hc]
    cases rest <;> simp
  obtain ⟨cs, hcs⟩ := hall
  refine ⟨?_, c, cs, hslash, hcs⟩
  rw [text]
  split
  · rename_i he
    have := congrArg String.toList he
    simp [hcs] at this
  · rfl

/-- A path reads back from its own text. -/
theorem ofText_text {p : Path} (h : p.Normal) : ofText p.text = p := by
  obtain ⟨root, parts⟩ := p
  by_cases hne : parts = []
  · subst hne
    rcases h.root with hr | hr | hr <;> simp only at hr <;> subst hr <;> rfl
  · obtain ⟨htext, c, cs, hc, hcs⟩ := text_eq h hne
    obtain ⟨hnone, hone, htwo⟩ := rootOf_of_not_slash hc cs
    have hparts := partsOf_intercalate h.parts
    simp only at hparts hcs htext
    rw [htext, ofText, String.toList_append, hcs]
    rcases h.root with hr | hr | hr <;> simp only at hr <;> subst hr
    · simp [hnone, hparts]
    · simp [hone, hparts]
    · have htwice : "//" ++ "/".intercalate parts = "/" ++ ("/" ++ "/".intercalate parts) := by
        rw [← String.append_assoc]
        rfl
      simp only [htwice, partsOf_slash, hparts]
      exact congrArg (fun r => (⟨r, parts⟩ : Path)) htwo

theorem text_ne_empty (p : Path) : p.text ≠ "" := by
  simp only [text]
  split
  · decide
  · assumption

theorem endsWith_iff {s ending : String} :
    s.endsWith ending = true ↔ ending.toList <:+ s.toList := by
  rw [String.endsWith_eq_endsWith_toSlice, String.Slice.endsWith_string_iff, String.copy_toSlice]

/-- The text of a path that goes anywhere does not end in a slash. -/
theorem endsWith_text {p : Path} (h : p.Normal) (hne : p.parts ≠ []) :
    p.text.endsWith "/" = false := by
  obtain ⟨first, last, hparts⟩ : ∃ first last, p.parts = first ++ [last] :=
    ⟨_, _, (List.dropLast_concat_getLast hne).symm⟩
  have hlast : IsStep last := h.parts last (by simp [hparts])
  have hend : ∃ before, p.text.toList = before ++ last.toList := by
    rw [(text_eq h hne).1, hparts]
    by_cases hfirst : first = []
    · exact ⟨p.root.toList, by simp [hfirst]⟩
    · rw [String.intercalate_append_of_ne_nil hfirst (by simp)]
      exact ⟨(p.root ++ ("/".intercalate first ++ "/")).toList, by simp⟩
  obtain ⟨before, hbefore⟩ := hend
  rw [← Bool.not_eq_true, endsWith_iff, hbefore]
  rintro ⟨front, hfront⟩
  obtain ⟨others, c, hc⟩ : ∃ others c, last.toList = others ++ [c] :=
    ⟨_, _, (List.dropLast_concat_getLast (by simpa using hlast.ne_empty)).symm⟩
  rw [hc, ← List.append_assoc] at hfront
  have hslash : "/".toList = [c] := (List.append_inj' hfront rfl).2
  exact hlast.no_slash (hc ▸ List.mem_append_right _ (hslash ▸ by decide))

theorem join_normal {directory p : Path} (hd : directory.Normal) (hp : p.Normal) :
    (directory.join p).Normal := by
  unfold join
  split
  · exact hp
  · refine ⟨hd.root, ?_⟩
    intro part h
    exact (List.mem_append.mp h).elim (hd.parts part) (hp.parts part)

theorem splitSuffix_subset (name : String) : (splitSuffix name).1.toList ⊆ name.toList := by
  simp only [splitSuffix]
  split
  · exact fun _ h => h
  · intro c hc
    rw [String.toList_ofList, List.mem_reverse] at hc
    exact List.mem_reverse.mp ((List.dropWhile_sublist _).subset (List.mem_of_mem_drop hc))

/-- A suffix with at least one character behind its point makes no name unfit. -/
theorem withSuffix_normal {p q : Path} {extension : String} (hp : p.Normal) (he : extension ≠ "")
    (h : p.withSuffix? ("." ++ extension) = some q) : q.Normal := by
  unfold withSuffix? at h
  split at h
  · contradiction
  · rename_i hgood
    obtain rfl := Option.some.inj h
    simp only [Bool.or_eq_true, decide_eq_true_eq, List.contains_iff_mem, not_or] at hgood
    obtain ⟨⟨hname, -⟩, hslash⟩ := hgood
    obtain ⟨c, cs, hc⟩ := List.exists_cons_of_ne_nil (by simpa using he : extension.toList ≠ [])
    have hlast : '/' ∉ p.name.toList := by
      unfold name at hname ⊢
      cases hl : p.parts.getLast? with
      | none => simp [hl] at hname
      | some part => exact (hp.parts part (List.mem_of_getLast? hl)).no_slash
    refine ⟨hp.root, ?_⟩
    intro part hpart
    rcases List.mem_append.mp hpart with hpart | hpart
    · exact hp.parts part ((List.dropLast_sublist _).subset hpart)
    · rw [List.mem_singleton] at hpart
      subst hpart
      have hlist : ((splitSuffix p.name).1 ++ ("." ++ extension)).toList =
          (splitSuffix p.name).1.toList ++ '.' :: c :: cs := by simp [hc]
      refine ⟨?_, ?_, ?_⟩
      · intro hempty
        have hnil := congrArg String.toList hempty
        simp [hlist] at hnil
      · intro hpoint
        have hlength := congrArg (fun s => s.toList.length) hpoint
        simp [hlist] at hlength
        omega
      · rw [String.toList_append, List.mem_append]
        rintro (hm | hm)
        · exact hlast (splitSuffix_subset _ hm)
        · exact hslash hm

structure SpelledBy (p : Path) (name : String) : Prop where
  path : ofText name = p
  ne_empty : name ≠ ""
  no_slash : name.endsWith "/" = false

theorem spelledBy_text {p : Path} (h : p.Normal) (hne : p.parts ≠ []) : p.SpelledBy p.text :=
  ⟨ofText_text h, p.text_ne_empty, endsWith_text h hne⟩

end PixelTelescope.Path
