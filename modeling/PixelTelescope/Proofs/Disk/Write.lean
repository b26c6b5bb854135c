import PixelTelescope.Disk.Basic
import PixelTelescope.Proofs.Disk.Path
import PixelTelescope.Proofs.Keyed
import PixelTelescope.Proofs.Outcome

namespace PixelTelescope.Disk

variable {β : Type} {d : Disk β} {p : Path} {location : Location}

theorem node?_put_self (d : Disk β) {location : Location} (h : location ≠ []) (node : Node β) :
    (d.put location node).node? location = some node := by
  simp [node?, put, h]

theorem node?_put_of_ne (d : Disk β) {location other : Location} (h : other ≠ location)
    (node : Node β) : (d.put location node).node? other = d.node? other := by
  unfold node?
  split
  · rfl
  · exact Keyed.get?_put_of_ne node d.nodes h

/-- A path is followed as before where nothing but a file has changed. -/
theorem walk_put (hl : d.node? location ≠ some .directory) (node : Node β)
    {here found : Location} {names : List String} (h : d.walk here names = .ok found) :
    (d.put location node).walk here names = .ok found := by
  induction names generalizing here with
  | nil => exact h
  | cons name rest ih =>
    by_cases hup : name = ".."
    · subst hup
      rw [walk] at h ⊢
      exact ih h
    · cases rest with
      | nil =>
        simp only [walk] at h ⊢
        exact h
      | cons next rest =>
        simp only [walk] at h ⊢
        split at h
        · contradiction
        · rename_i hlong
          split at h
          · rename_i hdir
            have hne : here ++ [name] ≠ location := fun he => hl (he ▸ hdir)
            simp only [hlong, ↓reduceIte, node?_put_of_ne d hne, hdir]
            exact ih h
          · contradiction
          · contradiction

theorem locate_put (hl : d.node? location ≠ some .directory) (node : Node β) {found : Location}
    (h : d.locate p = .ok found) : (d.put location node).locate p = .ok found := by
  unfold locate at h ⊢
  split at h
  · contradiction
  · rename_i hnul
    rw [if_neg hnul]
    exact walk_put hl node h

theorem write_ok {c : β} {d' : Disk β} : d.write p c = .ok d' ↔
    ∃ l, d.locate p = .ok l ∧ d.node? l ≠ some .directory ∧ d' = d.put l (.file c) := by
  rw [write, bind_eq_ok]
  constructor
  · rintro ⟨l, hl, h⟩
    split at h
    · contradiction
    · rename_i hdir
      exact ⟨l, hl, hdir, (Except.ok.inj h).symm⟩
  · rintro ⟨l, hl, hdir, rfl⟩
    refine ⟨l, hl, ?_⟩
    split
    · rename_i h
      exact absurd h hdir
    · rfl

theorem walk_ne_badName (d : Disk β) (here : Location) (names : List String) :
    d.walk here names ≠ .error .badName := by
  fun_induction Disk.walk d here names <;> simp_all

theorem write_badName {c : β} : d.write p c = .error .badName ↔ hasNul p = true := by
  rw [write, locate]
  cases hnul : hasNul p with
  | true => exact ⟨fun _ => rfl, fun _ => rfl⟩
  | false =>
    simp only [Bool.false_eq_true, ↓reduceIte, iff_false]
    cases hl : d.walk (if p.isAbsolute then [] else d.home) p.parts with
    | error fault =>
      intro h
      rw [Except.error.inj h] at hl
      exact d.walk_ne_badName _ _ hl
    | ok l =>
      simp only [bind, Except.bind]
      split <;> simp

theorem find_ok {node : Node β} : d.find p = .ok node ↔
    ∃ l, d.locate p = .ok l ∧ d.node? l = some node := by
  rw [find, bind_eq_ok]
  constructor
  · rintro ⟨l, hl, h⟩
    split at h
    · rename_i hn
      exact ⟨l, hl, by rw [hn, Except.ok.inj h]⟩
    · contradiction
  · rintro ⟨l, hl, hn⟩
    refine ⟨l, hl, ?_⟩
    simp only [hn]

/-- What was written last is what stands at the path. -/
theorem find_write {c : β} {d' : Disk β} (h : d.write p c = .ok d') :
    d'.find p = .ok (.file c) := by
  obtain ⟨l, hl, hdir, rfl⟩ := write_ok.mp h
  have hroot : l ≠ [] := by
    rintro rfl
    exact hdir rfl
  exact find_ok.mpr ⟨l, locate_put hdir _ hl, node?_put_self d hroot _⟩

/-- A file can be written again. -/
theorem write_of_find {c : β} (h : d.find p = .ok (.file c)) (c' : β) :
    ∃ d', d.write p c' = .ok d' ∧ d'.find p = .ok (.file c') := by
  obtain ⟨l, hl, hn⟩ := find_ok.mp h
  have hw : d.write p c' = .ok (d.put l (.file c')) := write_ok.mpr ⟨l, hl, by simp [hn], rfl⟩
  exact ⟨_, hw, find_write hw⟩

/-- Where a file stands in place of a file, all paths lead where they led. -/
theorem locate_put_file {c : β} (hl : d.node? location = some (.file c)) (c' : β) (p : Path) :
    (d.put location (.file c')).locate p = d.locate p := by
  have hroot : location ≠ [] := by
    rintro rfl
    simp [node?] at hl
  have hwalk : ∀ (names : List String) (here : Location),
      (d.put location (.file c')).walk here names = d.walk here names := by
    intro names
    induction names with
    | nil => exact fun _ => rfl
    | cons name rest ih =>
      intro here
      by_cases hup : name = ".."
      · subst hup
        simp only [walk, ih]
      · cases rest with
        | nil => simp only [walk]
        | cons next rest =>
          by_cases hhere : here ++ [name] = location
          · simp only [walk, hhere, hl, node?_put_self d hroot]
          · simp only [walk, node?_put_of_ne d hhere, ih]
  simp only [locate, hwalk]
  rfl

/-- A write to the same place is what stands at a path. -/
theorem find_write_of_eq {c : β} {d' : Disk β} {q : Path} (hw : d.write q c = .ok d')
    (hsame : d.locate q = d.locate p) : d'.find p = .ok (.file c) := by
  have hp : d.write p c = .ok d' := write_ok.mpr (hsame ▸ write_ok.mp hw)
  exact find_write hp

/-- A write elsewhere leaves what stands at a path. -/
theorem find_write_of_ne {c : β} {d' : Disk β} {q : Path} {node : Node β}
    (hw : d.write q c = .ok d') (h : d.find p = .ok node) (hne : d.locate q ≠ d.locate p) :
    d'.find p = .ok node := by
  obtain ⟨l, hl, hdir, rfl⟩ := write_ok.mp hw
  obtain ⟨l', hl', hn⟩ := find_ok.mp h
  have hother : l' ≠ l := by
    rintro rfl
    exact hne (hl.trans hl'.symm)
  exact find_ok.mpr ⟨l', locate_put hdir _ hl', (node?_put_of_ne d hother _).trans hn⟩

theorem read_of_find {c : β} (h : d.find p = .ok (.file c)) {name : String}
    (hname : p.SpelledBy name) : d.read name = .ok c := by
  obtain ⟨rfl, hne, hslash⟩ := hname
  simp [read, hne, hslash, h, bind, Except.bind]

/-- Where a file stands, the path's own text names it. -/
theorem spelledBy_of_find {c : β} (hp : p.Normal) (h : d.find p = .ok (.file c)) :
    p.SpelledBy p.text := by
  by_cases hne : p.parts = []
  · obtain ⟨root, parts⟩ := p
    obtain ⟨l, hl, hn⟩ := find_ok.mp h
    simp only at hne
    subst hne
    rcases hp.root with hr | hr | hr <;> simp only at hr <;> subst hr
    · exact ⟨rfl, by decide, by rw [← Bool.not_eq_true, Path.endsWith_iff]; decide⟩
    · obtain rfl : [] = l := Except.ok.inj hl
      simp [node?] at hn
    · obtain rfl : [] = l := Except.ok.inj hl
      simp [node?] at hn
  · exact Path.spelledBy_text hp hne

variable {d' d'' : Disk β}

def SameFiles (d' d : Disk β) : Prop :=
  ∀ other c, d'.node? other = some (.file c) ↔ d.node? other = some (.file c)

def SameBeside (d' d : Disk β) (location : Location) : Prop :=
  ∀ other, other ≠ location → ∀ c, d'.node? other = some (.file c) ↔ d.node? other = some (.file c)

theorem SameFiles.refl (d : Disk β) : d.SameFiles d := fun _ _ => Iff.rfl

theorem SameFiles.trans (h : d''.SameFiles d') (h' : d'.SameFiles d) : d''.SameFiles d :=
  fun other c => (h other c).trans (h' other c)

theorem SameFiles.beside (h : d'.SameFiles d) (location : Location) : d'.SameBeside d location :=
  fun other _ => h other

theorem SameBeside.trans (h : d''.SameBeside d' location) (h' : d'.SameBeside d location) :
    d''.SameBeside d location :=
  fun other hne c => (h other hne c).trans (h' other hne c)

theorem put_beside (d : Disk β) (location : Location) (node : Node β) :
    (d.put location node).SameBeside d location := by
  intro other hne c
  rw [node?_put_of_ne d hne]

theorem write_beside {c : β} (h : d.write p c = .ok d') (hl : d.locate p = .ok location) :
    d'.SameBeside d location := by
  obtain ⟨l, hp, -, rfl⟩ := write_ok.mp h
  obtain rfl : l = location := Except.ok.inj (hp.symm.trans hl)
  exact put_beside d l _

/-- A directory is only made where nothing stands. -/
theorem makeDirectory_files (h : d.makeDirectory p = .ok d') : d'.SameFiles d := by
  obtain ⟨l, -, h⟩ := bind_eq_ok.mp h
  split at h
  · contradiction
  · rename_i hnone
    obtain rfl := Except.ok.inj h
    have hroot : l ≠ [] := by
      rintro rfl
      contradiction
    intro other c
    by_cases hother : other = l
    · rw [hother, node?_put_self d hroot, hnone]
      simp
    · exact put_beside d l .directory other hother c

theorem ensureDirectory_files (h : d.ensureDirectory p = .ok d') : d'.SameFiles d := by
  unfold ensureDirectory at h
  split at h
  · rename_i made hmade
    exact Except.ok.inj h ▸ makeDirectory_files hmade
  · contradiction
  · split at h
    · exact Except.ok.inj h ▸ SameFiles.refl d
    · contradiction

theorem makeDirectoriesFrom_files {above : Nat} (h : d.makeDirectoriesFrom p above = .ok d') :
    d'.SameFiles d := by
  induction above generalizing p d' with
  | zero => exact ensureDirectory_files h
  | succ above ih =>
    unfold makeDirectoriesFrom at h
    split at h
    · split at h
      · contradiction
      · obtain ⟨made, hmade, h⟩ := bind_eq_ok.mp h
        exact (ensureDirectory_files h).trans (ih hmade)
    · exact ensureDirectory_files h

theorem makeDirectories_files (h : d.makeDirectories p = .ok d') : d'.SameFiles d :=
  makeDirectoriesFrom_files h

end PixelTelescope.Disk
