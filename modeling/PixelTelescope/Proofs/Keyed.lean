import PixelTelescope.Keyed

namespace PixelTelescope.Keyed

variable {κ β : Type}

def keys (pairs : List (κ × β)) : List κ := pairs.map (·.1)

@[simp] theorem keys_nil : keys ([] : List (κ × β)) = [] := rfl

@[simp] theorem keys_cons (k : κ) (v : β) (pairs : List (κ × β)) :
    keys ((k, v) :: pairs) = k :: keys pairs := rfl

@[simp] theorem keys_append (xs ys : List (κ × β)) : keys (xs ++ ys) = keys xs ++ keys ys :=
  List.map_append

variable [DecidableEq κ]

theorem get?_eq_none_iff {key : κ} {pairs : List (κ × β)} :
    get? key pairs = none ↔ key ∉ keys pairs := by
  induction pairs with
  | nil => simp [get?]
  | cons pair rest ih =>
    obtain ⟨k, v⟩ := pair
    by_cases h : k = key
    · simp [get?, h]
    · simp [get?, h, ih, Ne.symm h]

theorem contains_iff {key : κ} {pairs : List (κ × β)} :
    contains key pairs = true ↔ key ∈ keys pairs := by
  rw [contains, ← Option.not_isNone, Bool.not_eq_true', ← Bool.not_eq_true,
    Option.isNone_iff_eq_none, get?_eq_none_iff, Classical.not_not]

theorem contains_eq_false_iff {key : κ} {pairs : List (κ × β)} :
    contains key pairs = false ↔ key ∉ keys pairs := by
  rw [← Bool.not_eq_true, contains_iff]

theorem get?_append_right {key : κ} {xs : List (κ × β)} (ys : List (κ × β)) (h : key ∉ keys xs) :
    get? key (xs ++ ys) = get? key ys := by
  induction xs with
  | nil => rfl
  | cons pair rest ih =>
    obtain ⟨k, v⟩ := pair
    obtain ⟨hk, hr⟩ := by simpa using h
    simp [get?, Ne.symm hk, ih hr]

/-- With keys that differ, every pair is found. -/
theorem get?_of_mem {key : κ} {value : β} {pairs : List (κ × β)} (hd : (keys pairs).Nodup)
    (h : (key, value) ∈ pairs) : get? key pairs = some value := by
  obtain ⟨before, after, rfl⟩ := List.append_of_mem h
  have hn : key ∉ keys before := by
    intro hb
    exact (List.nodup_append.mp (keys_append before _ ▸ hd)).2.2 key hb key (by simp) rfl
  rw [get?_append_right _ hn]
  simp [get?]

theorem mem_of_get? {key : κ} {value : β} {pairs : List (κ × β)}
    (h : get? key pairs = some value) : (key, value) ∈ pairs := by
  induction pairs with
  | nil => contradiction
  | cons pair rest ih =>
    obtain ⟨k, v⟩ := pair
    rw [get?] at h
    split at h
    · rename_i hk
      rw [hk, Option.some.inj h]
      exact List.mem_cons_self
    · exact List.mem_cons_of_mem _ (ih h)

theorem get?_eq_some_iff {key : κ} {value : β} {pairs : List (κ × β)} (hd : (keys pairs).Nodup) :
    get? key pairs = some value ↔ (key, value) ∈ pairs :=
  ⟨mem_of_get?, get?_of_mem hd⟩

@[simp] theorem get?_put_self (key : κ) (value : β) (pairs : List (κ × β)) :
    get? key (put key value pairs) = some value := by
  induction pairs with
  | nil => simp [put, get?]
  | cons pair rest ih =>
    obtain ⟨k, v⟩ := pair
    by_cases h : k = key <;> simp [put, get?, h, ih]

theorem get?_put_of_ne {key other : κ} (value : β) (pairs : List (κ × β)) (h : other ≠ key) :
    get? other (put key value pairs) = get? other pairs := by
  induction pairs with
  | nil => simp [put, get?, Ne.symm h]
  | cons pair rest ih =>
    obtain ⟨k, v⟩ := pair
    by_cases hk : k = key
    · simp [put, get?, hk, Ne.symm h]
    · by_cases ho : k = other <;> simp [put, get?, hk, ho, ih, h]

/-- Putting back what stands there changes nothing. -/
theorem put_of_get? {key : κ} {value : β} {pairs : List (κ × β)}
    (h : get? key pairs = some value) : put key value pairs = pairs := by
  induction pairs with
  | nil => simp [get?] at h
  | cons pair rest ih =>
    obtain ⟨k, v⟩ := pair
    by_cases hk : k = key
    · simp only [get?, hk, ↓reduceIte, Option.some.injEq] at h
      simp [put, hk, h]
    · simp only [get?, hk, ↓reduceIte] at h
      simp [put, hk, ih h]

@[simp] theorem put_put (key : κ) (value earlier : β) (pairs : List (κ × β)) :
    put key value (put key earlier pairs) = put key value pairs := by
  induction pairs with
  | nil => simp [put]
  | cons pair rest ih =>
    obtain ⟨k, v⟩ := pair
    by_cases h : k = key <;> simp [put, h, ih]

theorem put_append_right {key : κ} (value : β) {xs : List (κ × β)} (ys : List (κ × β))
    (h : key ∉ keys xs) : put key value (xs ++ ys) = xs ++ put key value ys := by
  induction xs with
  | nil => rfl
  | cons pair rest ih =>
    obtain ⟨k, v⟩ := pair
    obtain ⟨hk, hr⟩ := by simpa using h
    simp [put, Ne.symm hk, ih hr]

theorem put_of_not_mem {key : κ} (value : β) {pairs : List (κ × β)} (h : key ∉ keys pairs) :
    put key value pairs = pairs ++ [(key, value)] := by
  simpa [put] using put_append_right value [] h

theorem mem_keys_put {key other : κ} {value : β} {pairs : List (κ × β)}
    (h : other ∈ keys (put key value pairs)) : other = key ∨ other ∈ keys pairs := by
  induction pairs with
  | nil => simpa [put] using h
  | cons pair rest ih =>
    obtain ⟨k, v⟩ := pair
    by_cases hk : k = key
    · simp only [put, hk, ↓reduceIte, keys_cons, List.mem_cons] at h
      exact h.imp_right (by simp +contextual)
    · simp only [put, hk, ↓reduceIte, keys_cons, List.mem_cons] at h ⊢
      rcases h with h | h
      · exact .inr (.inl h)
      · exact (ih h).imp_right .inr

theorem mem_keys_erase {key other : κ} {pairs : List (κ × β)} :
    other ∈ keys (erase key pairs) ↔ other ∈ keys pairs ∧ other ≠ key := by
  simp only [keys, erase, List.mem_map, List.mem_filter, decide_eq_true_eq]
  constructor
  · rintro ⟨pair, ⟨hp, hne⟩, rfl⟩
    exact ⟨⟨pair, hp, rfl⟩, hne⟩
  · rintro ⟨⟨pair, hp, rfl⟩, hne⟩
    exact ⟨pair, ⟨hp, hne⟩, rfl⟩

theorem erase_append (key : κ) (xs ys : List (κ × β)) :
    erase key (xs ++ ys) = erase key xs ++ erase key ys := List.filter_append ..

theorem erase_of_not_mem {key : κ} {pairs : List (κ × β)} (h : key ∉ keys pairs) :
    erase key pairs = pairs := by
  apply List.filter_eq_self.mpr
  intro pair hp
  have hk : pair.1 ≠ key := fun he => h (he ▸ List.mem_map.mpr ⟨pair, hp, rfl⟩)
  simpa using hk

end PixelTelescope.Keyed
