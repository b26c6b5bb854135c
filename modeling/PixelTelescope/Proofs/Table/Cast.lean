import PixelTelescope.Proofs.Outcome
import PixelTelescope.Table.Read

namespace PixelTelescope.Table

def Sheet.cell? (s : Sheet) (name : String) (i : Nat) : Option Value :=
  (s.field? name).bind (·[i]?)

/-- A hit table with so many lines. -/
structure Sheet.IsTable (s : Sheet) (count : Nat) : Prop where
  named : s.columns.length = s.names.length
  even : ∀ values ∈ s.columns, values.length = count
  required : ∀ name ∈ requiredColumns, name ∈ s.names

/-- What is cast keeps every cell that has the type of its column, and all columns that may have
any type. -/
structure Sheet.CastsTo (s typed : Sheet) : Prop where
  whole : ∀ name ∈ ["event", "column", "row"], ∀ i n, Bounds.fits64 n = true →
    s.cell? name i = some (.int n) → typed.cell? name i = some (.int n)
  signal : ∀ i x, s.cell? "signal" i = some (.float x) → typed.cell? "signal" i = some (.float x)
  detector : ∀ i d, s.cell? "detector" i = some (.text d) →
    typed.cell? "detector" i = some (.text d)
  optional : ∀ name ∉ requiredColumns, ∀ i, typed.cell? name i = s.cell? name i

structure Row.Fills (layout : Layout) (s : Sheet) (i : Nat) (r : Row Float) : Prop where
  event : s.cell? "event" i = some (.int r.event)
  detector : s.cell? "detector" i = some ((r.detector.map Value.text).getD missing)
  column : s.cell? "column" i = some (.int r.column)
  row : s.cell? "row" i = some (.int r.row)
  signal : s.cell? "signal" i = some (.float r.signal)
  /-- Without a column of times every time is zero. -/
  time : ∀ name, layout.time = some name →
    r.time = ((s.cell? name i).map Value.reading).getD (.real 0.0)
  /-- Without a column of tracks, or where it has a missing value, there is no track. -/
  track : ∀ name, layout.track = some name →
    r.track = ((s.cell? name i).bind present).map Value.reading
  pdg : ∀ name, layout.pdg = some name →
    r.pdg = ((s.cell? name i).bind present).map Value.reading

/-- The rows are the lines of a table, each with what its cells are cast to. -/
structure Sheet.Lists (layout : Layout) (s typed : Sheet) (rows : List (Row Float)) : Prop where
  table : s.IsTable rows.length
  cast : s.cast = .ok typed
  keeps : s.CastsTo typed
  fills : ∀ i, ∀ hi : i < rows.length, rows[i].Fills layout typed i

def castCell (name : String) (v : Value) : Except NumberFault Value :=
  if name = "event" || name = "column" || name = "row" then return .int (← castWhole v)
  else if name = "signal" then return .float (← v.reading.toScalar)
  else if name = "detector" then
    .ok (((present v).map fun v => Value.text v.display).getD missing)
  else .ok v

theorem castColumn_eq (name : String) (values : List Value) :
    castColumn name values = values.mapM (castCell name) := by
  unfold castColumn castCell
  split
  · rfl
  split
  · rfl
  split
  · exact (mapM_ok fun _ _ => rfl).symm
  · exact ((mapM_ok fun _ _ => rfl).trans (congrArg _ (List.map_id values))).symm

theorem castCell_whole {name : String} (hname : name ∈ ["event", "column", "row"]) {v v' : Value}
    (h : castCell name v = .ok v') : ∃ n, castWhole v = .ok n ∧ v' = .int n := by
  have hcell : castCell name v = (return .int (← castWhole v)) := by
    simp only [List.mem_cons, List.not_mem_nil, or_false] at hname
    rcases hname with rfl | rfl | rfl <;> rfl
  obtain ⟨n, hn, he⟩ := bind_eq_ok.mp (hcell.symm.trans h)
  exact ⟨n, hn, (Except.ok.inj he).symm⟩

theorem castCell_signal {v v' : Value} (h : castCell "signal" v = .ok v') :
    ∃ x, v.reading.toScalar = .ok x ∧ v' = .float x := by
  obtain ⟨x, hx, he⟩ := bind_eq_ok.mp h
  exact ⟨x, hx, (Except.ok.inj he).symm⟩

theorem castCell_other {name : String} (hname : name ∉ requiredColumns) (v : Value) :
    castCell name v = .ok v := by
  simp only [requiredColumns, List.mem_cons, List.not_mem_nil, or_false, not_or] at hname
  simp [castCell, hname]

theorem fits64_iff {n : Int} :
    Bounds.fits64 n = true ↔ -9223372036854775808 ≤ n ∧ n ≤ 9223372036854775807 := by
  rw [Bounds.fits64, Bool.and_eq_true, decide_eq_true_iff, decide_eq_true_iff]
  rfl

theorem fits64_bmod (n : Int) : Bounds.fits64 (n.bmod Bounds.words.toNat) = true := by
  have hlow := Int.le_bmod (x := n) (m := Bounds.words.toNat) (by decide)
  have hhigh := Int.bmod_lt (x := n) (m := Bounds.words.toNat) (by decide)
  have hwords : (Bounds.words.toNat : Int) = 18446744073709551616 := rfl
  rw [hwords] at hlow hhigh
  exact fits64_iff.mpr ⟨by omega, by omega⟩

theorem castWhole_fits {v : Value} {n : Int} (h : castWhole v = .ok n) :
    Bounds.fits64 n = true := by
  unfold castWhole at h
  split at h
  · exact Except.ok.inj h ▸ fits64_bmod _
  · split at h
    · contradiction
    · split at h
      · rename_i hfits
        exact Except.ok.inj h ▸ hfits
      · contradiction
  · split at h
    · obtain rfl := Except.ok.inj h
      split
      · assumption
      · decide
    · contradiction

theorem castWhole_int {n : Int} (h : Bounds.fits64 n = true) : castWhole (.int n) = .ok n := by
  obtain ⟨hlow, hhigh⟩ := fits64_iff.mp h
  have hwords : (Bounds.words.toNat : Int) = 18446744073709551616 := rfl
  rw [castWhole, Int.bmod_eq_of_le (by rw [hwords]; omega) (by rw [hwords]; omega)]

theorem not_isFieldName_underscore (rest : String) : isFieldName ("_" ++ rest) = false := by
  have hstarts : ("_" ++ rest).startsWith "_" = true :=
    String.startsWith_string_iff.mpr (by simp)
  simp [isFieldName, hstarts, -String.startsWith_string_iff]

theorem present_missing : present missing = none := by decide

variable {names seen : List String} {columns cells : List (List Value)} {name : String}

theorem column?_cons (first : String) (values : List Value) :
    Sheet.column? ⟨first :: names, values :: columns⟩ name =
      if first = name then some values else Sheet.column? ⟨names, columns⟩ name := by
  by_cases h : first = name <;> simp [Sheet.column?, h]

/-- The first column of a name that may name a field goes by it. -/
theorem column?_fieldNames (hname : isFieldName name = true) (hseen : name ∉ seen) (i : Nat) :
    Sheet.column? ⟨fieldNames seen names i, columns⟩ name =
      Sheet.column? ⟨names, columns⟩ name := by
  induction names generalizing seen i columns with
  | nil => rfl
  | cons first rest ih =>
    cases columns with
    | nil => simp [Sheet.column?]
    | cons values more =>
      rw [fieldNames, column?_cons, column?_cons]
      by_cases hfirst : first = name
      · subst hfirst
        simp [hname, hseen]
      · have hfield : (if (isFieldName first && !seen.contains first) = true then first
            else "_" ++ toString i) ≠ name := by
          split
          · exact hfirst
          · rintro rfl
            rw [not_isFieldName_underscore] at hname
            contradiction
        rw [if_neg hfield, if_neg hfirst]
        exact ih (by simp [Ne.symm hfirst, hseen]) (i + 1)

/-- A column is cast as its name asks for. -/
theorem column?_cast {fields : List String}
    (h : ((fields.zip columns).mapM fun e =>
      (liftM (castColumn e.1 e.2) : Except Failure (List Value))) = .ok cells) :
    Option.Rel (fun values typed => castColumn name values = .ok typed)
      (Sheet.column? ⟨fields, columns⟩ name) (Sheet.column? ⟨fields, cells⟩ name) := by
  induction fields generalizing columns cells with
  | nil => exact .none
  | cons field rest ih =>
    cases columns with
    | nil =>
      obtain rfl := Except.ok.inj h
      exact .none
    | cons values more =>
      rw [List.zip_cons_cons, List.mapM_cons] at h
      obtain ⟨first, hfirst, h⟩ := bind_eq_ok.mp h
      obtain ⟨others, hothers, h⟩ := bind_eq_ok.mp h
      obtain rfl := Except.ok.inj h
      rw [column?_cons, column?_cons]
      by_cases hname : field = name
      · subst hname
        rw [if_pos rfl, if_pos rfl]
        exact .some (liftM_eq_ok.mp hfirst)
      · rw [if_neg hname, if_neg hname]
        exact ih hothers

theorem length_fieldNames (seen names : List String) (i : Nat) :
    (fieldNames seen names i).length = names.length := by
  induction names generalizing seen i with
  | nil => rfl
  | cons first rest ih => simp [fieldNames, ih]

theorem length_castColumn {values typed : List Value} (h : castColumn name values = .ok typed) :
    typed.length = values.length := by
  rw [castColumn_eq] at h
  exact (mapM_eq_ok.mp h).length_eq.symm

variable {s typed : Sheet} {count i : Nat}

theorem Sheet.IsTable.height (h : s.IsTable count) : (s.columns.headD []).length = count := by
  have hnames : s.names ≠ [] := List.ne_nil_of_mem (h.required "event" (by decide))
  have hcolumns : s.columns ≠ [] := by
    rwa [← List.length_pos_iff, h.named, List.length_pos_iff]
  obtain ⟨first, rest, hc⟩ := List.exists_cons_of_ne_nil hcolumns
  rw [hc, List.headD_cons]
  exact h.even first (hc ▸ List.mem_cons_self)

/-- Casting keeps the shape of a table. -/
theorem Sheet.IsTable.cast (h : s.IsTable count) (hcast : s.cast = .ok typed) :
    typed.IsTable count := by
  obtain ⟨cells, hcells, he⟩ := bind_eq_ok.mp hcast
  obtain rfl := Except.ok.inj he
  have hall := mapM_eq_ok.mp hcells
  constructor
  · rw [← hall.length_eq, List.length_zip, length_fieldNames, h.named, Nat.min_self]
  · intro values hvalues
    obtain ⟨e, hmem, hcolumn⟩ := exists_of_mem_right hall hvalues
    rw [length_castColumn (liftM_eq_ok.mp hcolumn)]
    exact h.even _ (List.of_mem_zip hmem).2
  · exact h.required

theorem column?_mem {values : List Value} (h : Sheet.column? ⟨names, columns⟩ name = some values) :
    values ∈ columns := by
  obtain ⟨e, he, rfl⟩ := Option.map_eq_some_iff.mp h
  exact (List.of_mem_zip (List.mem_of_find?_eq_some he)).2

theorem Sheet.IsTable.length_field (h : s.IsTable count) {values : List Value}
    (hvalues : s.field? name = some values) : values.length = count := by
  unfold Sheet.field? at hvalues
  split at hvalues
  · rename_i found hfound
    obtain rfl := Option.some.inj hvalues
    exact h.even _ (column?_mem hfound)
  · split at hvalues
    · obtain rfl := Option.some.inj hvalues
      rw [List.length_replicate, h.height]
    · contradiction

theorem not_required_of_rowMember (h : rowMembers.contains name = true) :
    name ∉ requiredColumns := by
  have hall : ∀ member ∈ rowMembers, member ∉ requiredColumns := by decide
  exact hall name (List.contains_iff_mem.mp h)

/-- What rows are asked for is cast cell by cell. -/
theorem field?_cast (h : s.IsTable count) (hcast : s.cast = .ok typed) (name : String) :
    Option.Rel (List.Forall₂ fun v v' => castCell name v = .ok v')
      (s.field? name) (typed.field? name) := by
  have hheight := (h.cast hcast).height.trans h.height.symm
  obtain ⟨cells, hcells, he⟩ := bind_eq_ok.mp hcast
  obtain rfl := Except.ok.inj he
  have hrel : Option.Rel _ (Sheet.column? ⟨_, s.columns⟩ name) _ := column?_cast hcells
  unfold Sheet.field?
  dsimp only at hheight ⊢
  rw [hheight]
  generalize Sheet.column? ⟨fieldNames [] s.names 0, s.columns⟩ name = values at hrel ⊢
  generalize Sheet.column? ⟨fieldNames [] s.names 0, cells⟩ name = cells at hrel ⊢
  cases hrel with
  | some hcolumn => exact .some (mapM_eq_ok.mp ((castColumn_eq name _).symm.trans hcolumn))
  | none =>
    dsimp only
    split
    · rename_i hmember
      refine .some (List.forall₂_same.mpr fun v _ => ?_)
      exact castCell_other (not_required_of_rowMember hmember) v
    · exact .none

theorem cell?_cast (h : s.IsTable count) (hcast : s.cast = .ok typed) (name : String) (i : Nat) :
    Option.Rel (fun v v' => castCell name v = .ok v') (s.cell? name i) (typed.cell? name i) := by
  have hrel := field?_cast h hcast name
  unfold Sheet.cell?
  generalize s.field? name = values at hrel ⊢
  generalize typed.field? name = cells at hrel ⊢
  cases hrel with
  | none => exact .none
  | @some values cells hall =>
    simp only [Option.bind_some]
    by_cases hi : i < values.length
    · have hi' : i < cells.length := hall.length_eq ▸ hi
      rw [List.getElem?_eq_getElem hi, List.getElem?_eq_getElem hi']
      exact .some (hall.get hi hi')
    · have hi' : ¬ i < cells.length := hall.length_eq ▸ hi
      rw [List.getElem?_eq_none (Nat.not_lt.mp hi), List.getElem?_eq_none (Nat.not_lt.mp hi')]
      exact .none

/-- A cell that is there is cast to what stands in its place. -/
theorem cell?_typed (h : s.IsTable count) (hcast : s.cast = .ok typed) {v : Value}
    (hv : s.cell? name i = some v) :
    ∃ v', castCell name v = .ok v' ∧ typed.cell? name i = some v' := by
  have hrel := cell?_cast h hcast name i
  rw [hv] at hrel
  generalize typed.cell? name i = found at hrel ⊢
  cases hrel with
  | some hcell => exact ⟨_, hcell, rfl⟩

theorem castsTo_of_cast (h : s.IsTable count) (hcast : s.cast = .ok typed) : s.CastsTo typed where
  whole name hname i n hfits hv := by
    obtain ⟨v', hv', hcell⟩ := cell?_typed h hcast hv
    obtain ⟨m, hm, rfl⟩ := castCell_whole hname hv'
    rw [hcell, Except.ok.inj (hm.symm.trans (castWhole_int hfits))]
  signal i x hv := by
    obtain ⟨v', hv', hcell⟩ := cell?_typed h hcast hv
    obtain ⟨y, hy, rfl⟩ := castCell_signal hv'
    rw [hcell, ← Except.ok.inj (hy : Except.ok x = .ok y)]
  detector i d hv := by
    obtain ⟨v', hv', hcell⟩ := cell?_typed h hcast hv
    rw [hcell, ← Except.ok.inj hv']
    rfl
  optional name hname i := by
    have hrel := cell?_cast h hcast name i
    generalize s.cell? name i = v at hrel ⊢
    generalize typed.cell? name i = v' at hrel ⊢
    cases hrel with
    | none => rfl
    | some hcell => rw [← Except.ok.inj ((castCell_other hname _).symm.trans hcell)]

theorem Sheet.IsTable.column? (h : s.IsTable count) (hname : name ∈ requiredColumns) :
    ∃ values, s.column? name = some values ∧ s.field? name = some values ∧
      values.length = count := by
  have hfield : isFieldName name = true := by
    have hall : ∀ name ∈ requiredColumns, isFieldName name = true := by decide +kernel
    exact hall name hname
  obtain ⟨i, hi, rfl⟩ := List.mem_iff_getElem.mp (h.required name hname)
  have hzip : i < (s.names.zip s.columns).length := by
    rwa [List.length_zip, h.named, Nat.min_self]
  have hsome : ((s.names.zip s.columns).find? fun e => e.1 = s.names[i]).isSome = true := by
    refine List.find?_isSome.mpr ⟨_, List.getElem_mem hzip, ?_⟩
    simp
  obtain ⟨e, he⟩ := Option.isSome_iff_exists.mp hsome
  have hvalues : s.column? s.names[i] = some e.2 := congrArg (Option.map Prod.snd) he
  have hcolumn : Sheet.column? ⟨fieldNames [] s.names 0, s.columns⟩ s.names[i] = some e.2 :=
    (column?_fieldNames hfield List.not_mem_nil 0).trans hvalues
  refine ⟨e.2, hvalues, ?_, h.even _ (column?_mem hvalues)⟩
  rw [Sheet.field?, hcolumn]

/-- What a row takes from a column that is required is its cell, cast. -/
theorem Sheet.IsTable.entry (h : s.IsTable count) (hcast : s.cast = .ok typed) (hi : i < count)
    (hname : name ∈ requiredColumns) :
    ∃ v v', castCell name v = .ok v' ∧ typed.cell? name i = some v' ∧
      ((typed.column? name).getD []).toArray.getD i missing = v' := by
  obtain ⟨raw, -, hraw, hlength⟩ := h.column? hname
  obtain ⟨values, hcolumn, hfield, hsame⟩ := (h.cast hcast).column? hname
  have hthere : s.cell? name i = some raw[i] := by simp [Sheet.cell?, hraw]
  obtain ⟨v', hv', hcell⟩ := cell?_typed h hcast hthere
  refine ⟨raw[i], v', hv', hcell, ?_⟩
  rw [Sheet.cell?, hfield, Option.bind_some] at hcell
  rw [hcolumn, Option.getD_some, Array.getD_eq_getD_getElem?, List.getElem?_toArray, hcell,
    Option.getD_some]

theorem Sheet.IsTable.whole (h : s.IsTable count) (hcast : s.cast = .ok typed) (hi : i < count)
    (hname : name ∈ ["event", "column", "row"]) :
    typed.cell? name i = some
      (.int (wholeOf (((typed.column? name).getD []).toArray.getD i missing))) := by
  have hrequired : name ∈ requiredColumns := by
    have hall : ∀ name ∈ ["event", "column", "row"], name ∈ requiredColumns := by decide
    exact hall name hname
  obtain ⟨v, v', hv', hcell, hentry⟩ := h.entry hcast hi hrequired
  obtain ⟨n, -, rfl⟩ := castCell_whole hname hv'
  rw [hcell, hentry, wholeOf]

theorem optionalColumn_getD (h : s.IsTable count) (hi : i < count) (default : Value)
    (name : String) :
    (optionalColumn s count default (some name)).toArray.getD i missing =
      (s.cell? name i).getD default := by
  simp only [optionalColumn, Sheet.cell?]
  cases hfield : s.field? name with
  | none => simp [hi]
  | some values =>
    have hlt : i < values.length := by rwa [h.length_field hfield]
    simp [hlt]

theorem present_getD (cell : Option Value) : present (cell.getD missing) = cell.bind present := by
  cases cell with
  | none => exact present_missing
  | some v => rfl

variable {layout : Layout} {rows : List (Row Float)}

/-- The rows of a table are its lines. -/
theorem rowsOf_lists (h : s.IsTable count) (hrows : rowsOf layout s = .ok rows) :
    rows.length = count ∧ ∃ typed, s.Lists layout typed rows := by
  obtain ⟨typed, hcast, hrows⟩ := bind_eq_ok.mp hrows
  obtain rfl := Except.ok.inj hrows
  have hcount : ((typed.column? "event").getD []).toArray.size = count := by
    obtain ⟨values, hvalues, -, hlength⟩ := (h.cast hcast).column?
      (show "event" ∈ requiredColumns by decide)
    rw [hvalues, Option.getD_some, List.size_toArray, hlength]
  have hlength : ∀ f : Nat → Row Float, ((List.range count).map f).length = count := by simp
  dsimp only
  rw [hcount]
  refine ⟨hlength _, typed, (hlength _).symm ▸ h, hcast, castsTo_of_cast h hcast, ?_⟩
  intro i hi
  rw [hlength] at hi
  rw [List.getElem_map, List.getElem_range]
  have htyped := h.cast hcast
  constructor
  · exact h.whole hcast hi (by decide)
  · obtain ⟨v, v', hv', hcell, hentry⟩ := h.entry hcast hi
      (show "detector" ∈ requiredColumns by decide)
    dsimp only
    rw [hcell, hentry, ← Except.ok.inj hv']
    cases present v with
    | none => rfl
    | some name => rfl
  · exact h.whole hcast hi (by decide)
  · exact h.whole hcast hi (by decide)
  · obtain ⟨v, v', hv', hcell, hentry⟩ := h.entry hcast hi
      (show "signal" ∈ requiredColumns by decide)
    obtain ⟨x, -, rfl⟩ := castCell_signal hv'
    dsimp only
    rw [hcell, hentry, numberOf]
  · intro name hname
    rw [hname, optionalColumn_getD htyped hi]
    cases typed.cell? name i <;> rfl
  · intro name hname
    rw [hname, optionalColumn_getD htyped hi, present_getD]
  · intro name hname
    rw [hname, optionalColumn_getD htyped hi, present_getD]

end PixelTelescope.Table
