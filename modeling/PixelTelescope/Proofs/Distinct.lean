import Mathlib.Data.List.Nodup
import Mathlib.Data.List.Perm.Basic
import Mathlib.Data.List.Perm.Subperm

namespace PixelTelescope

/-- Items of different numbers that are sorted by these have increasing numbers. -/
theorem mergeSort_increasing {β : Type} {f : β → Int} {xs : List β} (hd : (xs.map f).Nodup) :
    (xs.mergeSort fun a b => f a ≤ f b).Pairwise fun a b => f a < f b := by
  have hle : (xs.mergeSort fun a b => f a ≤ f b).Pairwise fun a b => decide (f a ≤ f b) = true :=
    List.pairwise_mergeSort (fun a b c => by simp; omega) (fun a b => by simp; omega) xs
  have hne : (xs.mergeSort fun a b => f a ≤ f b).Pairwise fun a b => f a ≠ f b :=
    List.pairwise_map.mp (((List.mergeSort_perm xs _).map f).nodup_iff.mpr hd)
  refine (hle.and hne).imp ?_
  rintro a b ⟨hab, hn⟩
  exact Int.lt_iff_le_and_ne.mpr ⟨of_decide_eq_true hab, hn⟩

variable {β γ : Type} [BEq β] [LawfulBEq β] [BEq γ] [LawfulBEq γ]

theorem nodup_eraseDups (xs : List β) : xs.eraseDups.Nodup := by
  cases xs with
  | nil => simp
  | cons x rest =>
    rw [List.eraseDups_cons, List.nodup_cons, List.mem_eraseDups]
    exact ⟨by simp, nodup_eraseDups _⟩
termination_by xs.length
decreasing_by exact Nat.lt_succ_of_le (List.length_filter_le _ _)

theorem length_eraseDups_le (xs : List β) : xs.eraseDups.length ≤ xs.length :=
  ((nodup_eraseDups xs).subperm fun _ h => List.mem_eraseDups.mp h).length_le

theorem eraseDups_of_nodup {xs : List β} (h : xs.Nodup) : xs.eraseDups = xs := by
  induction xs with
  | nil => simp
  | cons x rest ih =>
    obtain ⟨hx, hrest⟩ := List.nodup_cons.mp h
    have hkept : rest.filter (fun y => !y == x) = rest := by
      apply List.filter_eq_self.mpr
      intro y hy
      have hne : y ≠ x := fun he => hx (he ▸ hy)
      simpa using hne
    rw [List.eraseDups_cons, hkept, ih hrest]

/-- In whatever order items come, the same items are found. -/
theorem eraseDups_perm {xs ys : List β} (h : xs.Perm ys) : xs.eraseDups.Perm ys.eraseDups := by
  refine (List.perm_ext_iff_of_nodup (nodup_eraseDups xs) (nodup_eraseDups ys)).mpr fun x => ?_
  rw [List.mem_eraseDups, List.mem_eraseDups, h.mem_iff]

/-- Values that differ where the items do appear first in the order of the items. -/
theorem eraseDups_map {f : β → γ} (xs : List β)
    (hf : ∀ x ∈ xs, ∀ y ∈ xs, f x = f y → x = y) :
    (xs.map f).eraseDups = xs.eraseDups.map f := by
  match xs, hf with
  | [], _ => simp
  | x :: rest, hf =>
    have hrest : (rest.map f).filter (fun b => !b == f x) =
        (rest.filter fun b => !b == x).map f := by
      rw [List.filter_map]
      congr 1
      apply List.filter_congr
      intro y hy
      by_cases hxy : y = x
      · simp [hxy]
      · have hne : f y ≠ f x :=
          fun he => hxy (hf y (List.mem_cons_of_mem _ hy) x List.mem_cons_self he)
        simp [hxy, hne]
    rw [List.map_cons, List.eraseDups_cons, List.eraseDups_cons, List.map_cons, hrest,
      eraseDups_map]
    intro y hy z hz
    exact hf y (List.mem_cons_of_mem _ (List.mem_filter.mp hy).1) z
      (List.mem_cons_of_mem _ (List.mem_filter.mp hz).1)
termination_by xs.length
decreasing_by exact Nat.lt_succ_of_le (List.length_filter_le _ _)

/-- Items that are numbered as they appear first take the numbers in order. -/
theorem eraseDups_map_idxOf (xs : List β) :
    (xs.map fun x => xs.eraseDups.idxOf x).eraseDups = List.range xs.eraseDups.length := by
  have hd := nodup_eraseDups xs
  rw [eraseDups_map]
  · apply List.ext_getElem (by simp)
    intro i hi hr
    simp [hd.idxOf_getElem]
  · intro x hx y hy he
    exact (List.idxOf_inj (List.mem_eraseDups.mpr hx)).mp he

/-- Where values differ, each leads to one item. -/
theorem filter_of_nodup_map {ι κ : Type} [DecidableEq κ] {f : ι → κ} {xs : List ι}
    (hd : (xs.map f).Nodup) {x : ι} (hx : x ∈ xs) : xs.filter (fun y => f y = f x) = [x] := by
  obtain ⟨before, after, rfl⟩ := List.append_of_mem hx
  rw [List.map_append, List.map_cons, List.nodup_append, List.nodup_cons] at hd
  obtain ⟨-, ⟨hafter, -⟩, hbefore⟩ := hd
  have hnone (ys : List ι) (h : f x ∉ ys.map f) : ys.filter (fun y => f y = f x) = [] := by
    refine List.filter_eq_nil_iff.mpr fun y hy hsame => h ?_
    exact of_decide_eq_true hsame ▸ List.mem_map_of_mem hy
  rw [List.filter_append, List.filter_cons_of_pos (by simp), hnone after hafter,
    hnone before fun hmem => hbefore _ hmem _ List.mem_cons_self rfl, List.nil_append]

section Grouping

variable {κ β : Type} [DecidableEq κ]

def grouped (key : β → κ) (keys : List κ) (xs : List β) : List β :=
  keys.flatMap fun k => xs.filter fun x => key x = k

variable {key : β → κ} {keys : List κ} {xs : List β}

/-- Grouping moves items and neither drops nor repeats any. -/
theorem grouped_perm (hd : keys.Nodup) (h : ∀ x ∈ xs, key x ∈ keys) :
    (grouped key keys xs).Perm xs := by
  induction keys generalizing xs with
  | nil =>
    obtain rfl : xs = [] := List.eq_nil_iff_forall_not_mem.mpr fun x hx => by simpa using h x hx
    rfl
  | cons k rest ih =>
    obtain ⟨hk, hrest⟩ := List.nodup_cons.mp hd
    have hothers : grouped key rest xs =
        grouped key rest (xs.filter fun x => !decide (key x = k)) := by
      apply List.flatMap_congr
      intro k' hk'
      rw [List.filter_filter]
      apply List.filter_congr
      intro x _
      by_cases hx : key x = k'
      · have hne : k' ≠ k := fun he => hk (he ▸ hk')
        simp [hx, hne]
      · simp [hx]
    have hcovered : ∀ x ∈ xs.filter (fun x => !decide (key x = k)), key x ∈ rest := by
      intro x hx
      obtain ⟨hx, hne⟩ := List.mem_filter.mp hx
      exact (List.mem_cons.mp (h x hx)).resolve_left (by simpa using hne)
    have hsplit : grouped key (k :: rest) xs =
        xs.filter (fun x => key x = k) ++ grouped key rest xs := rfl
    rw [hsplit, hothers]
    exact (List.Perm.append_left _ (ih hrest hcovered)).trans
      (List.filter_append_perm (fun x => key x = k) xs)

theorem filter_grouped_of_not_mem {k : κ} (hk : k ∉ keys) (xs : List β) :
    (grouped key keys xs).filter (fun x => key x = k) = [] := by
  apply List.filter_eq_nil_iff.mpr
  intro x hx
  obtain ⟨k', hk', hx⟩ := List.mem_flatMap.mp hx
  have hkey := of_decide_eq_true (List.mem_filter.mp hx).2
  simp only [hkey, decide_eq_true_eq]
  exact fun he => hk (he ▸ hk')

/-- The items of one key stay in their order. -/
theorem filter_grouped_of_mem (hd : keys.Nodup) {k : κ} (hk : k ∈ keys) (xs : List β) :
    (grouped key keys xs).filter (fun x => key x = k) = xs.filter fun x => key x = k := by
  induction keys with
  | nil => simp at hk
  | cons k' rest ih =>
    obtain ⟨hnew, hrest⟩ := List.nodup_cons.mp hd
    have hsplit : grouped key (k' :: rest) xs =
        xs.filter (fun x => key x = k') ++ grouped key rest xs := rfl
    rw [hsplit, List.filter_append, List.filter_filter]
    by_cases he : k' = k
    · subst he
      rw [filter_grouped_of_not_mem hnew, List.append_nil]
      simp
    · have hnone : xs.filter (fun x => decide (key x = k) && decide (key x = k')) = [] := by
        apply List.filter_eq_nil_iff.mpr
        intro x _
        simp only [Bool.and_eq_true, decide_eq_true_eq, not_and]
        exact fun hx hx' => he (hx'.symm.trans hx)
      rw [hnone, List.nil_append]
      exact ih hrest ((List.mem_cons.mp hk).resolve_left (Ne.symm he))

end Grouping

end PixelTelescope
