import PixelTelescope.Proofs.Table.Cast

namespace PixelTelescope.Table

variable {fields : List String} {values : List Value}

theorem length_wholes {read : String → Whole} (h : (wholes read fields).stop = none) :
    (wholes read fields).numbers.length = fields.length := by
  induction fields with
  | nil => rfl
  | cons field rest ih =>
    unfold wholes at h ⊢
    dsimp only at h ⊢
    split
    · rename_i hmissing
      rw [if_pos hmissing] at h
      simpa using ih h
    · rename_i hpresent
      rw [if_neg hpresent] at h
      split
      · rename_i n hn
        rw [hn] at h
        simpa using ih h
      · rename_i hn
        split at h
        · rename_i n hm
          exact absurd hm (hn n)
        · contradiction

theorem length_values (w : Wholes) : w.values.length = w.numbers.length := by
  unfold Wholes.values
  split
  · exact List.length_map _
  · rename_i hnone
    refine List.filterMap_length_eq_length.mpr fun n hn => ?_
    cases n with
    | none => exact absurd (List.contains_iff_mem.mpr hn) hnone
    | some n => rfl

theorem length_read? {read : String → Option Value} (h : read? read fields = some values) :
    values.length = fields.length := by
  unfold read? at h
  induction fields generalizing values with
  | nil =>
    obtain rfl := Option.some.inj h
    rfl
  | cons field rest ih =>
    rw [List.mapM_cons] at h
    obtain ⟨v, -, h⟩ := Option.bind_eq_some_iff.mp h
    obtain ⟨more, hmore, h⟩ := Option.bind_eq_some_iff.mp h
    obtain rfl := Option.some.inj h
    rw [List.length_cons, List.length_cons, ih hmore]

theorem length_texts (fields : List String) : (texts fields).length = fields.length :=
  List.length_map _

theorem length_mixed (fields : List String) : (mixed fields).length = fields.length := by
  unfold mixed
  split
  · rename_i hvalues
    exact length_read? hvalues
  · cases hvalues : read? truth? fields with
    | none => exact length_texts fields
    | some values => exact length_read? hvalues

theorem length_large (fields : List String) : (large fields).length = fields.length := by
  unfold large
  dsimp only
  split
  · exact length_mixed fields
  · exact length_texts fields
  · rename_i hstop
    split
    · exact List.length_map _
    · split
      · exact length_texts fields
      · rw [length_values, length_wholes hstop]

/-- A column has as many cells as fields were read. -/
theorem length_column (fields : List String) : (column fields).length = fields.length := by
  unfold column
  dsimp only
  split
  · exact length_mixed fields
  · exact length_large fields
  · rename_i hstop
    rw [length_values, length_wholes hstop]

theorem ofLines_even {lines : List (List String)} {s : Sheet} (h : Sheet.ofLines lines = .ok s) :
    s.columns.length = s.names.length ∧
      ∀ values ∈ s.columns, values.length = lines.length - 1 := by
  cases lines with
  | nil => contradiction
  | cons names lines =>
    simp only [Sheet.ofLines] at h
    split at h
    · contradiction
    · obtain rfl := Except.ok.inj h
      constructor
      · rw [List.length_drop, List.length_map, List.length_range]
        exact Nat.sub_sub_self (Nat.le_max_left _ _)
      · intro values hvalues
        obtain ⟨i, -, rfl⟩ := List.mem_map.mp (List.mem_of_mem_drop hvalues)
        simp [length_column]

theorem ofText_isTable {text : String} {s : Sheet} (h : Sheet.ofText text = .ok s)
    (hrequired : ∀ name ∈ requiredColumns, name ∈ s.names) : ∃ count, s.IsTable count := by
  unfold Sheet.ofText at h
  split at h
  · obtain ⟨hnamed, heven⟩ := ofLines_even h
    exact ⟨_, hnamed, heven, hrequired⟩
  · contradiction

variable {layout : Layout} {d : Disk (Run.Content Float)} {path : String} {rows : List (Row Float)}

/-- The rows that are read are the lines of the table in the file. -/
theorem read_lists (h : read layout d path = .ok rows) :
    ∃ text s typed, d.find (Path.ofText path) = .ok (.file (.text text)) ∧
      Sheet.ofText text = .ok s ∧ s.Lists layout typed rows := by
  simp only [read] at h
  split at h
  · contradiction
  · split at h
    · rename_i text htext
      obtain ⟨_, hsame, h⟩ := bind_eq_ok.mp h
      obtain rfl := Except.ok.inj hsame
      obtain ⟨s, hs, h⟩ := bind_eq_ok.mp h
      split at h
      · rename_i habsent
        have hrequired : ∀ name ∈ requiredColumns, name ∈ s.names := by
          simpa using habsent
        obtain ⟨count, htable⟩ := ofText_isTable hs hrequired
        obtain ⟨-, typed, hlists⟩ := rowsOf_lists htable h
        exact ⟨text, s, typed, htext, hs, hlists⟩
      · contradiction
    · contradiction
    · contradiction
    · contradiction

/-- The event numbers of a table are integers of 64 bits. -/
theorem Sheet.Lists.fits {s typed : Sheet} (h : s.Lists layout typed rows) :
    ∀ r ∈ rows, Bounds.fits64 r.event = true := by
  intro r hr
  obtain ⟨i, hi, rfl⟩ := List.mem_iff_getElem.mp hr
  have hrel := cell?_cast h.table h.cast "event" i
  rw [(h.fills i hi).event] at hrel
  generalize s.cell? "event" i = v at hrel
  cases hrel with
  | some hcell =>
    obtain ⟨n, hn, he⟩ := castCell_whole (by decide) hcell
    rw [Value.int.inj he]
    exact castWhole_fits hn

end PixelTelescope.Table
