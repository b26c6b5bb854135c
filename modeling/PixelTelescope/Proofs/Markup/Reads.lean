import PixelTelescope.Markup.Dashes
import PixelTelescope.Proofs.Markup.Scan

namespace PixelTelescope.Markup

def isName (name : String) : Bool :=
  match name.toList with
  | [] => false
  | c :: cs => isNameStart c && cs.all isNameChar

def Attribute.isSound (a : Attribute) : Bool :=
  !a.gap.toList.isEmpty && a.gap.toList.all isBlank && isName a.name

structure SoundTag (name : String) (attributes : List Attribute) : Prop where
  named : isName name = true
  sound : attributes.all (·.isSound) = true
  nodup : (attributes.map (·.name)).Nodup

def Attribute.pair (a : Attribute) : String × String := (a.name, a.value)

theorem isNameChar_of_isBlank {c : Char} (h : isBlank c = true) : isNameChar c = false := by
  simp only [isBlank, Bool.or_eq_true, decide_eq_true_eq] at h
  rcases h with ((rfl | rfl) | rfl) | rfl <;> rfl

theorem isNameStart_of_not_isNameChar {c : Char} (h : isNameChar c = false) :
    isNameStart c = false := by
  simp only [isNameChar, Bool.or_eq_false_iff] at h
  exact h.1.1.1

theorem cons_of_isName {name : String} (h : isName name = true) :
    ∃ c cs, name.toList = c :: cs ∧ isNameStart c = true ∧ ∀ d ∈ cs, isNameChar d = true := by
  unfold isName at h
  split at h
  · contradiction
  · rename_i c cs hcs
    rw [Bool.and_eq_true, List.all_eq_true] at h
    exact ⟨c, cs, hcs, h⟩

theorem Attribute.isSound_iff (a : Attribute) : a.isSound = true ↔
    a.gap.toList ≠ [] ∧ (∀ c ∈ a.gap.toList, isBlank c = true) ∧ isName a.name = true := by
  simp [isSound, and_assoc]

def Reads (s : State) (cs : List Char) (s' : State) : Prop := s.run cs = some s'

namespace Reads

variable {s s' s'' : State} {c : Char} {as bs cs : List Char}

theorem refl (s : State) : Reads s [] s := rfl

theorem cons_iff : Reads s (c :: cs) s'' ↔ ((s.step c).bind fun t => t.run cs) = some s'' := Iff.rfl

theorem cons (h : s.step c = some s') (hcs : Reads s' cs s'') : Reads s (c :: cs) s'' := by
  rw [cons_iff, h]
  exact hcs

theorem append (has : Reads s as s') (hbs : Reads s' bs s'') : Reads s (as ++ bs) s'' := by
  rw [Reads, State.run] at has
  rw [Reads, State.run, List.foldlM_append, has]
  exact hbs

/-- Places that treat the first character alike. -/
theorem congr (h : Reads s' (c :: cs) s'') (hc : s.step c = s'.step c) : Reads s (c :: cs) s'' := by
  rwa [cons_iff, hc]

variable {stack : List Frame} {nodes : List Node} {tag : Tag} {name : String} {done : List Char}

/-- A place that only takes down what is read. -/
theorem collect {place : List Char → Place} {p : Char → Prop}
    (hstep : ∀ done c, p c → State.step ⟨stack, nodes, place done⟩ c =
      some ⟨stack, nodes, place (done ++ [c])⟩) (h : ∀ c ∈ cs, p c) :
    Reads ⟨stack, nodes, place done⟩ cs ⟨stack, nodes, place (done ++ cs)⟩ := by
  induction cs generalizing done with
  | nil =>
    rw [List.append_nil]
    exact .refl _
  | cons c rest ih =>
    rw [List.append_cons]
    exact .cons (hstep done c (h c List.mem_cons_self))
      (ih fun d hd => h d (List.mem_cons_of_mem _ hd))

/-- A place that passes over blanks. -/
theorem blanks (hstep : ∀ c, isBlank c = true → s.step c = some s)
    (h : ∀ c ∈ cs, isBlank c = true) : Reads s cs s := by
  induction cs with
  | nil => exact .refl _
  | cons c rest ih =>
    exact .cons (hstep c (h c List.mem_cons_self)) (ih fun d hd => h d (List.mem_cons_of_mem _ hd))

theorem blank (h : ∀ c ∈ cs, isBlank c = true) :
    Reads ⟨stack, nodes, .between⟩ cs ⟨stack, nodes, .between⟩ := by
  refine blanks (fun c hc => ?_) h
  have hlt : c ≠ '<' := by
    rintro rfl
    contradiction
  simp only [State.step, if_neg hlt, if_pos hc]

theorem instruction (h : '?' ∉ cs) :
    Reads ⟨stack, nodes, .between⟩ ("<?".toList ++ cs ++ "?>".toList)
      ⟨stack, nodes ++ [.instruction (.ofList cs)], .between⟩ := by
  have hopen : Reads ⟨stack, nodes, .between⟩ "<?".toList ⟨stack, nodes, .instruction []⟩ := rfl
  have htext : Reads ⟨stack, nodes, .instruction []⟩ cs
      ⟨stack, nodes, .instruction ([] ++ cs)⟩ := by
    refine collect (p := (· ≠ '?')) (fun done c hc => ?_) fun c hc he => h (he ▸ hc)
    simp only [State.step, State.goTo, if_neg hc]
  exact (hopen.append htext).append rfl

theorem step_comment (h : c ≠ '-') : State.step ⟨stack, nodes, .comment done⟩ c =
    some ⟨stack, nodes, .comment (done ++ [c])⟩ := by
  simp only [State.step, State.goTo, if_neg h]

/-- A dash is taken down together with the character behind it. -/
theorem commentText (hpair : hasPair cs = false) (hlast : cs.getLast? ≠ some '-') :
    Reads ⟨stack, nodes, .comment done⟩ (cs ++ "-->".toList)
      ⟨stack, nodes ++ [.comment (.ofList (done ++ cs))], .between⟩ := by
  fun_induction hasPair cs generalizing done with
  | case1 rest => contradiction
  | case2 c rest hno ih =>
    have hrest : rest.getLast? ≠ some '-' := fun h => hlast (by simp [List.getLast?_cons, h])
    have hread : Reads ⟨stack, nodes, .comment (done ++ [c])⟩ (rest ++ "-->".toList)
        ⟨stack, nodes ++ [.comment (.ofList (done ++ c :: rest))], .between⟩ := by
      rw [List.append_cons done c rest]
      exact ih hpair hrest
    by_cases hc : c = '-'
    · subst hc
      cases rest with
      | nil => exact absurd rfl hlast
      | cons d more =>
        have hd : d ≠ '-' := fun hd => hno more rfl (by rw [hd])
        refine .cons rfl (hread.congr ?_)
        rw [step_comment hd, List.append_assoc]
        simp only [State.step, State.goTo, if_neg hd]
        rfl
    · exact .cons (step_comment hc) hread
  | case3 =>
    rw [List.append_nil]
    rfl

theorem comment (hpair : hasPair cs = false) (hlast : cs.getLast? ≠ some '-') :
    Reads ⟨stack, nodes, .between⟩ ("<!--".toList ++ cs ++ "-->".toList)
      ⟨stack, nodes ++ [.comment (.ofList cs)], .between⟩ := by
  have hopen : Reads ⟨stack, nodes, .between⟩ "<!--".toList ⟨stack, nodes, .comment []⟩ := rfl
  rw [List.append_assoc]
  exact hopen.append (commentText hpair hlast)

theorem escapedChar (c : Char) : Reads ⟨stack, nodes, .value tag name done⟩ (escapedChar c)
    ⟨stack, nodes, .value tag name (done ++ [c])⟩ := by
  by_cases hamp : c = '&'
  · subst hamp
    rfl
  by_cases hlt : c = '<'
  · subst hlt
    rfl
  by_cases hgt : c = '>'
  · subst hgt
    rfl
  by_cases hquot : c = '"'
  · subst hquot
    rfl
  rw [Markup.escapedChar, if_neg hamp, if_neg hlt, if_neg hgt, if_neg hquot]
  refine .cons ?_ (.refl _)
  simp only [State.step, State.goTo, if_neg hamp, if_neg hlt, if_neg hquot]

/-- A value is read back whatever it holds. -/
theorem value : Reads ⟨stack, nodes, .value tag name done⟩ (cs.flatMap Markup.escapedChar)
    ⟨stack, nodes, .value tag name (done ++ cs)⟩ := by
  induction cs generalizing done with
  | nil =>
    rw [List.append_nil]
    exact .refl _
  | cons c rest ih =>
    rw [List.flatMap_cons, List.append_cons]
    exact (escapedChar c).append ih

variable {a : Attribute} {attributes : List Attribute}

theorem gap (hne : cs ≠ []) (h : ∀ c ∈ cs, isBlank c = true) :
    Reads ⟨stack, nodes, .tag tag⟩ cs ⟨stack, nodes, .gap tag⟩ := by
  have hstep (c : Char) (hc : isBlank c = true) :
      State.goOn ⟨stack, nodes, .gap tag⟩ tag c = some ⟨stack, nodes, .gap tag⟩ := by
    simp only [State.goOn, State.goTo, if_pos hc]
  obtain ⟨c, rest, rfl⟩ := List.exists_cons_of_ne_nil hne
  refine .cons (hstep c (h c List.mem_cons_self)) (blanks (fun d hd => ?_) fun d hd =>
    h d (List.mem_cons_of_mem _ hd))
  have hstart := isNameStart_of_not_isNameChar (isNameChar_of_isBlank hd)
  simp only [State.step, hstart, hstep d hd]
  rfl

theorem attributeOf (h : a.isSound = true) (hnew : a.name ∉ tag.attributes.map (·.1)) :
    Reads ⟨stack, nodes, .tag tag⟩ a.write
      ⟨stack, nodes, .tag ⟨tag.name, tag.attributes ++ [a.pair]⟩⟩ := by
  obtain ⟨hne, hblank, hname⟩ := a.isSound_iff.mp h
  have hname : Reads ⟨stack, nodes, .gap tag⟩ a.name.toList
      ⟨stack, nodes, .attributeName tag a.name.toList⟩ := by
    obtain ⟨c, cs, hcons, hc, hcs⟩ := cons_of_isName hname
    rw [hcons]
    have hfirst : State.step ⟨stack, nodes, .gap tag⟩ c =
        some ⟨stack, nodes, .attributeName tag [c]⟩ := by
      simp only [State.step, State.goTo, if_pos hc]
    refine .cons hfirst (collect (p := (isNameChar · = true)) (fun done d hd => ?_) hcs)
    simp only [State.step, State.goTo, if_pos hd]
  have hequals : Reads ⟨stack, nodes, .attributeName tag a.name.toList⟩ "=\"".toList
      ⟨stack, nodes, .value tag a.name []⟩ := by
    have hsign : State.step ⟨stack, nodes, .attributeName tag a.name.toList⟩ '=' =
        some ⟨stack, nodes, .equals tag a.name⟩ := by
      simp only [State.step, State.goTo, String.ofList_toList]
      rw [if_neg (by decide), if_pos ⟨trivial, hnew⟩]
    exact .cons hsign rfl
  have hvalue : Reads ⟨stack, nodes, .value tag a.name []⟩ (escaped a.value)
      ⟨stack, nodes, .value tag a.name ([] ++ a.value.toList)⟩ := value
  have hend : Reads ⟨stack, nodes, .value tag a.name ([] ++ a.value.toList)⟩ ['"']
      ⟨stack, nodes, .tag ⟨tag.name, tag.attributes ++ [a.pair]⟩⟩ := by
    refine .cons ?_ (.refl _)
    simp only [State.step, State.goTo, List.nil_append, String.ofList_toList]
    rfl
  have hall := ((gap hne hblank).append (hname.append (hequals.append hvalue))).append hend
  simpa [Attribute.write] using hall

theorem attributesOf (h : attributes.all (·.isSound) = true)
    (hnodup : (tag.attributes.map (·.1) ++ attributes.map (·.name)).Nodup) :
    Reads ⟨stack, nodes, .tag tag⟩ (attributes.flatMap Attribute.write)
      ⟨stack, nodes, .tag ⟨tag.name, tag.attributes ++ attributes.map Attribute.pair⟩⟩ := by
  induction attributes generalizing tag with
  | nil =>
    rw [List.map_nil, List.append_nil]
    exact .refl _
  | cons a rest ih =>
    have hnew : a.name ∉ tag.attributes.map (·.1) := fun hmem =>
      (List.nodup_append.mp hnodup).2.2 _ hmem _ List.mem_cons_self rfl
    rw [List.flatMap_cons, List.map_cons, List.append_cons]
    obtain ⟨ha, hrest⟩ := (Bool.and_eq_true _ _).mp h
    exact (attributeOf ha hnew).append (ih hrest (by simpa [Attribute.pair] using hnodup))

/-- The name of a tag ends where something begins that is no part of a name. -/
theorem tagName (h : isName name = true) (hc : isNameChar c = false)
    (hread : Reads ⟨stack, nodes, .tag ⟨name, []⟩⟩ (c :: cs) s') :
    Reads ⟨stack, nodes, .between⟩ ('<' :: name.toList ++ c :: cs) s' := by
  obtain ⟨d, ds, hcons, hd, hds⟩ := cons_of_isName h
  have hfirst : State.step ⟨stack, nodes, .opened⟩ d = some ⟨stack, nodes, .tagName [d]⟩ := by
    have hmark (e : Char) (he : isNameStart e = false) : d ≠ e := by
      rintro rfl
      rw [hd] at he
      contradiction
    simp only [State.step, State.goTo, if_neg (hmark '!' rfl), if_neg (hmark '?' rfl),
      if_neg (hmark '/' rfl), if_pos hd]
  have hname : Reads ⟨stack, nodes, .tagName [d]⟩ ds ⟨stack, nodes, .tagName name.toList⟩ := by
    rw [hcons]
    refine collect (p := (isNameChar · = true)) (fun done e he => ?_) hds
    simp only [State.step, State.goTo, if_pos he]
  have hend : Reads ⟨stack, nodes, .tagName name.toList⟩ (c :: cs) s' := by
    refine hread.congr ?_
    simp only [State.step, hc, String.ofList_toList]
    rfl
  rw [hcons]
  exact .cons rfl (.cons hfirst (hname.append hend))

theorem startTag (h : SoundTag name attributes) (hc : isNameChar c = false)
    (hread : Reads ⟨stack, nodes, .tag ⟨name, attributes.map Attribute.pair⟩⟩ (c :: cs) s') :
    Reads ⟨stack, nodes, .between⟩ (writeTag name attributes ++ c :: cs) s' := by
  have hattributes : Reads ⟨stack, nodes, .tag ⟨name, []⟩⟩
      (attributes.flatMap Attribute.write ++ c :: cs) s' :=
    (attributesOf h.sound (by simpa using h.nodup)).append hread
  rw [writeTag, List.append_assoc]
  cases attributes with
  | nil => exact tagName h.named hc hattributes
  | cons a rest =>
    obtain ⟨hne, hblank, -⟩ := a.isSound_iff.mp ((Bool.and_eq_true _ _).mp h.sound).1
    obtain ⟨b, more, hcons⟩ := List.exists_cons_of_ne_nil hne
    have hb := isNameChar_of_isBlank (hblank b (by rw [hcons]; exact List.mem_cons_self))
    simp only [List.flatMap_cons, Attribute.write, hcons, List.cons_append] at hattributes ⊢
    exact tagName h.named hb hattributes

theorem emptyElement {tail : List Char} (h : SoundTag name attributes)
    (htail : ∀ c ∈ tail, isBlank c = true) :
    Reads ⟨stack, nodes, .between⟩ (writeTag name attributes ++ tail ++ "/>".toList)
      ⟨stack, nodes ++ [.element name (attributes.map Attribute.pair) []], .between⟩ := by
  rw [List.append_assoc]
  cases tail with
  | nil => exact startTag h rfl rfl
  | cons b more =>
    have hread : Reads ⟨stack, nodes, .tag ⟨name, attributes.map Attribute.pair⟩⟩
        (b :: more ++ "/>".toList)
        ⟨stack, nodes ++ [.element name (attributes.map Attribute.pair) []], .between⟩ :=
      (gap (List.cons_ne_nil b more) htail).append rfl
    exact startTag h (isNameChar_of_isBlank (htail b List.mem_cons_self)) hread

theorem endTag {frame : Frame} (h : isName name = true) (hname : frame.tag.name = name) :
    Reads ⟨frame :: stack, nodes, .between⟩ ("</".toList ++ name.toList ++ ['>'])
      ⟨stack, frame.before ++ [.element name frame.tag.attributes nodes], .between⟩ := by
  have hopen : Reads ⟨frame :: stack, nodes, .between⟩ "</".toList
      ⟨frame :: stack, nodes, .endName []⟩ := rfl
  have hread : Reads ⟨frame :: stack, nodes, .endName []⟩ name.toList
      ⟨frame :: stack, nodes, .endName ([] ++ name.toList)⟩ := by
    obtain ⟨c, cs, hcons, hc, hcs⟩ := cons_of_isName h
    refine collect (p := (isNameChar · = true)) (fun done d hd => ?_) fun d hd => ?_
    · have hend : d ≠ '>' := by
        rintro rfl
        contradiction
      simp only [State.step, State.goTo, if_neg hend, if_pos hd]
    · rw [hcons] at hd
      rcases List.mem_cons.mp hd with rfl | hd
      · simp [isNameChar, hc]
      · exact hcs d hd
  refine (hopen.append hread).append (.cons ?_ (.refl _))
  simp only [State.step, State.close, List.nil_append, String.ofList_toList, if_pos hname]
  rfl

end Reads

end PixelTelescope.Markup
