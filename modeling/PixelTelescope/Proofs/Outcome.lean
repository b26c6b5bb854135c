import Mathlib.Data.List.Forall2
import PixelTelescope.Failure

namespace PixelTelescope

variable {ε β γ : Type}

/-- Where every item succeeds, so does the list of them. -/
theorem mapM_ok {f : β → Except ε γ} {g : β → γ} {items : List β}
    (h : ∀ x ∈ items, f x = .ok (g x)) : items.mapM f = .ok (items.map g) := by
  induction items with
  | nil => rfl
  | cons x rest ih =>
    have hr : rest.mapM f = .ok (rest.map g) := ih fun y hy => h y (List.mem_cons_of_mem _ hy)
    rw [List.mapM_cons, h x List.mem_cons_self, hr]
    rfl

theorem bind_eq_ok {x : Except ε β} {f : β → Except ε γ} {z : γ} :
    (x >>= f) = .ok z ↔ ∃ y, x = .ok y ∧ f y = .ok z := by
  cases x with
  | ok y => simp [bind, Except.bind]
  | error e => simp [bind, Except.bind]

theorem map_eq_ok {x : Except ε β} {f : β → γ} {z : γ} :
    x.map f = .ok z ↔ ∃ y, x = .ok y ∧ f y = z := by
  cases x with
  | ok y => simp [Except.map]
  | error e => simp [Except.map]

theorem any_toOption {x : Except ε β} {p : β → Bool} :
    x.toOption.any p = true ↔ ∃ y, x = .ok y ∧ p y = true := by
  cases x with
  | ok y => simp [Except.toOption]
  | error e => simp [Except.toOption]

/-- A number that is read within a larger task is read as it would be alone. -/
theorem liftM_eq_ok {x : Except NumberFault β} {y : β} :
    (liftM x : Except Failure β) = .ok y ↔ x = .ok y := by
  cases x with
  | ok z =>
    have hlift : (liftM (Except.ok z : Except NumberFault β) : Except Failure β) = .ok z := rfl
    rw [hlift, Except.ok.injEq, Except.ok.injEq]
  | error fault =>
    constructor
    · intro h
      contradiction
    · intro h
      contradiction

theorem liftShape_eq_ok {x : Except ShapeFault β} {y : β} :
    (liftM x : Except Failure β) = .ok y ↔ x = .ok y := by
  cases x with
  | ok z =>
    have hlift : (liftM (Except.ok z : Except ShapeFault β) : Except Failure β) = .ok z := rfl
    rw [hlift, Except.ok.injEq, Except.ok.injEq]
  | error fault =>
    constructor
    · intro h
      contradiction
    · intro h
      contradiction

/-- What succeeds is gone on with. -/
theorem bind_of_ok {x : Except ε β} {y : β} (h : x = .ok y) (f : β → Except ε γ) :
    (x >>= f) = f y := by
  rw [h]
  rfl

/-- The items of a list that succeeds are those of its parts, in order. -/
theorem mapM_eq_ok {f : β → Except ε γ} {xs : List β} {ys : List γ} :
    xs.mapM f = .ok ys ↔ List.Forall₂ (fun x y => f x = .ok y) xs ys := by
  induction xs generalizing ys with
  | nil => simp [pure, Except.pure, eq_comm]
  | cons x rest ih =>
    rw [List.mapM_cons, bind_eq_ok, List.forall₂_cons_left_iff]
    constructor
    · rintro ⟨y, hy, h⟩
      obtain ⟨more, hmore, h⟩ := bind_eq_ok.mp h
      obtain rfl := Except.ok.inj h
      exact ⟨y, more, hy, ih.mp hmore, rfl⟩
    · rintro ⟨y, more, hy, hmore, rfl⟩
      exact ⟨y, hy, bind_eq_ok.mpr ⟨more, ih.mpr hmore, rfl⟩⟩

/-- The first item that fails settles how a list fails. -/
theorem mapM_first_error {f : β → Except ε γ} {before after : List β} {x : β} {e : ε}
    (hbefore : ∀ y ∈ before, ∃ z, f y = .ok z) (hx : f x = .error e) :
    (before ++ x :: after).mapM f = .error e := by
  induction before with
  | nil =>
    rw [List.nil_append, List.mapM_cons, hx]
    rfl
  | cons y rest ih =>
    obtain ⟨z, hz⟩ := hbefore y List.mem_cons_self
    have hrest := ih fun y hy => hbefore y (List.mem_cons_of_mem _ hy)
    rw [List.cons_append, List.mapM_cons, bind_of_ok hz, hrest]
    rfl

/-- A list succeeds as a whole, or as its first item that fails. -/
theorem mapM_cases (f : β → Except ε γ) (xs : List β) :
    (∃ ys, xs.mapM f = .ok ys) ∨ ∃ before x after e, xs = before ++ x :: after ∧
      (∀ y ∈ before, ∃ z, f y = .ok z) ∧ f x = .error e ∧ xs.mapM f = .error e := by
  induction xs with
  | nil => exact .inl ⟨[], rfl⟩
  | cons x rest ih =>
    cases hx : f x with
    | error e =>
      have hnone : ∀ y ∈ ([] : List β), ∃ z, f y = .ok z := by simp
      exact .inr ⟨[], x, rest, e, rfl, hnone, hx, mapM_first_error hnone hx⟩
    | ok z =>
      rcases ih with ⟨ys, hys⟩ | ⟨before, y, after, e, rfl, hbefore, hy, -⟩
      · exact .inl ⟨z :: ys, mapM_eq_ok.mpr (.cons hx (mapM_eq_ok.mp hys))⟩
      · have hall : ∀ y ∈ x :: before, ∃ z, f y = .ok z :=
          List.forall_mem_cons.mpr ⟨⟨z, hx⟩, hbefore⟩
        exact .inr ⟨x :: before, y, after, e, rfl, hall, hy, mapM_first_error hall hy⟩

/-- Results that are changed one by one are changed as a list. -/
theorem mapM_map_result {δ : Type} {f : β → Except ε γ} {g : γ → δ} (xs : List β) :
    xs.mapM (fun x => (f x).map g) = (xs.mapM f).map (List.map g) := by
  induction xs with
  | nil => rfl
  | cons x rest ih =>
    rw [List.mapM_cons, List.mapM_cons, ih]
    cases f x with
    | error e => rfl
    | ok y => cases rest.mapM f <;> rfl

/-- Lists that match a third one, item by item, match each other. -/
theorem forall₂_comp {R : β → γ → Prop} {δ : Type} {S : γ → δ → Prop} {xs : List β} {ys : List γ}
    {zs : List δ} (h : List.Forall₂ R xs ys) (h' : List.Forall₂ S ys zs) :
    List.Forall₂ (fun x z => ∃ y, R x y ∧ S y z) xs zs := by
  induction h generalizing zs with
  | nil => simpa using h'
  | cons hxy _ ih =>
    obtain ⟨z, rest, hyz, hrest, rfl⟩ := List.forall₂_cons_left_iff.mp h'
    exact .cons ⟨_, hxy, hyz⟩ (ih hrest)

theorem exists_forall₂ {R : β → γ → Prop} {xs : List β} (h : ∀ x ∈ xs, ∃ y, R x y) :
    ∃ ys, List.Forall₂ R xs ys := by
  induction xs with
  | nil => exact ⟨[], .nil⟩
  | cons x rest ih =>
    obtain ⟨y, hy⟩ := h x List.mem_cons_self
    obtain ⟨ys, hys⟩ := ih fun z hz => h z (List.mem_cons_of_mem _ hz)
    exact ⟨y :: ys, .cons hy hys⟩

/-- Every item of a list succeeds, so the list does. -/
theorem exists_mapM_ok {f : β → Except ε γ} {R : β → γ → Prop} {xs : List β}
    (h : ∀ x ∈ xs, ∃ y, f x = .ok y ∧ R x y) :
    ∃ ys, xs.mapM f = .ok ys ∧ List.Forall₂ R xs ys := by
  obtain ⟨ys, hys⟩ := exists_forall₂ h
  exact ⟨ys, mapM_eq_ok.mpr (hys.imp fun _ _ h => h.1), hys.imp fun _ _ h => h.2⟩

theorem forall₂_mem {R : β → γ → Prop} {xs : List β} {ys : List γ} (h : List.Forall₂ R xs ys) :
    List.Forall₂ (fun x y => x ∈ xs ∧ y ∈ ys ∧ R x y) xs ys := by
  induction h with
  | nil => exact .nil
  | cons hxy _ ih =>
    refine .cons ⟨List.mem_cons_self, List.mem_cons_self, hxy⟩ (ih.imp ?_)
    rintro x y ⟨hx, hy, hR⟩
    exact ⟨List.mem_cons_of_mem _ hx, List.mem_cons_of_mem _ hy, hR⟩

/-- What matches some of the items of a list stands in the same order. -/
theorem forall₂_filter {R : β → γ → Prop} {xs : List β} {ys : List γ} (p : β → Bool)
    (h : List.Forall₂ R xs ys) :
    ∃ zs, List.Forall₂ R (xs.filter p) zs ∧ zs.Sublist ys := by
  induction h with
  | nil => exact ⟨[], .nil, .slnil⟩
  | @cons x y _ _ hxy _ ih =>
    obtain ⟨zs, hzs, hsub⟩ := ih
    cases hp : p x with
    | true => exact ⟨y :: zs, by simpa [hp] using ⟨hxy, hzs⟩, hsub.cons_cons y⟩
    | false => exact ⟨zs, by simpa [hp] using hzs, hsub.cons y⟩

theorem exists_of_mem_right {R : β → γ → Prop} {xs : List β} {ys : List γ}
    (h : List.Forall₂ R xs ys) {y : γ} (hy : y ∈ ys) : ∃ x ∈ xs, R x y := by
  obtain ⟨i, hi, rfl⟩ := List.mem_iff_getElem.mp hy
  have hx : i < xs.length := h.length_eq ▸ hi
  exact ⟨xs[i], List.getElem_mem hx, h.get hx hi⟩

theorem map_eq_of_forall₂ {R : β → γ → Prop} {δ : Type} {f : β → δ} {g : γ → δ} {xs : List β}
    {ys : List γ} (h : List.Forall₂ R xs ys) (hfg : ∀ x y, R x y → f x = g y) :
    xs.map f = ys.map g := by
  induction h with
  | nil => rfl
  | cons hxy _ ih => rw [List.map_cons, List.map_cons, hfg _ _ hxy, ih]

end PixelTelescope
