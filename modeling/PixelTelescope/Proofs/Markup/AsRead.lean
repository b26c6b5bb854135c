import PixelTelescope.Proofs.Markup.Parse
import PixelTelescope.Proofs.Text.LineEnds

namespace PixelTelescope.Markup

def spaced (cs : List Char) : List Char := cs.map fun c => if isBlank c then ' ' else c

def valueAsRead (cs : List Char) : List Char := spaced (Text.joinLineEnds cs)

def asRead (value : String) : String := .ofList (valueAsRead value.toList)

def Tag.asRead (t : Tag) : Tag := ⟨t.name, t.attributes.map fun a => (a.1, Markup.asRead a.2)⟩

mutual

def Node.asRead : Node → Node
  | .instruction text => .instruction (Text.withLineFeeds text)
  | .comment text => .comment (Text.withLineFeeds text)
  | .element name attributes children =>
    .element name (attributes.map fun a => (a.1, Markup.asRead a.2)) (allAsRead children)

def allAsRead : List Node → List Node
  | [] => []
  | n :: rest => n.asRead :: allAsRead rest

end

def Frame.asRead (f : Frame) : Frame := ⟨f.tag.asRead, allAsRead f.before⟩

def Place.asRead : Place → Place
  | .between => .between
  | .opened => .opened
  | .bang => .bang
  | .bangDash => .bangDash
  | .comment text => .comment (Text.joinLineEnds text)
  | .commentDash text => .commentDash (Text.joinLineEnds text)
  | .commentEnd text => .commentEnd (Text.joinLineEnds text)
  | .instruction text => .instruction (Text.joinLineEnds text)
  | .instructionEnd text => .instructionEnd (Text.joinLineEnds text)
  | .tagName name => .tagName name
  | .tag t => .tag t.asRead
  | .gap t => .gap t.asRead
  | .attributeName t name => .attributeName t.asRead name
  | .equals t name => .equals t.asRead name
  | .value t name text => .value t.asRead name (valueAsRead text)
  | .entity t name text word => .entity t.asRead name (valueAsRead text) (Text.joinLineEnds word)
  | .selfClosing t => .selfClosing t.asRead
  | .endName name => .endName name

def State.asRead (s : State) : State :=
  ⟨s.stack.map Frame.asRead, allAsRead s.nodes, s.place.asRead⟩

/-- The last character is a carriage return that may be the first one of a line end. -/
def State.Pending (s : State) : Prop :=
  match s.place with
  | .comment text => text.getLast? = some '\r'
  | .instruction text => text.getLast? = some '\r'
  | .value _ _ text => text.getLast? = some '\r'
  | .entity _ _ _ word => word.getLast? = some '\r'
  | _ => False

open Text (apply_fed fed fed_eq fed_eq_iff joinLineEnds joinLineEnds_behind joinLineEnds_concat
  joinLineEnds_of_not_mem joinLineEnds_pair)

theorem isBlank_fed (c : Char) : isBlank (fed c) = isBlank c := apply_fed rfl c

theorem isNameStart_fed (c : Char) : isNameStart (fed c) = isNameStart c := apply_fed rfl c

theorem isNameChar_fed (c : Char) : isNameChar (fed c) = isNameChar c := apply_fed rfl c

theorem fed_of_not_isBlank {c : Char} (h : isBlank c = false) : fed c = c := by
  refine fed_eq ?_
  rintro rfl
  contradiction

theorem valueAsRead_concat {cs : List Char} {c : Char} (h : c = '\n' → cs.getLast? ≠ some '\r') :
    valueAsRead (cs ++ [c]) = valueAsRead cs ++ [if isBlank c then ' ' else c] := by
  rw [valueAsRead, joinLineEnds_concat h, spaced, List.map_append, valueAsRead, spaced]
  cases hc : isBlank c with
  | true => simp [hc, isBlank_fed]
  | false => simp [hc, fed_of_not_isBlank hc]

theorem allAsRead_append (as bs : List Node) :
    allAsRead (as ++ bs) = allAsRead as ++ allAsRead bs := by
  induction as with
  | nil => rfl
  | cons n rest ih => rw [List.cons_append, allAsRead, ih, allAsRead, List.cons_append]

variable {s s' s'' : State} {c : Char}

theorem fed_of_isNameChar (h : isNameChar c = true) : fed c = c := by
  refine fed_eq ?_
  rintro rfl
  contradiction

theorem fed_of_isNameStart (h : isNameStart c = true) : fed c = c :=
  fed_of_isNameChar (by simp [isNameChar, h])

theorem goOn_asRead (s : State) (t : Tag) (c : Char) :
    s.asRead.goOn t.asRead (fed c) = (s.goOn t c).map State.asRead := by
  simp (disch := decide) only [State.goOn, isBlank_fed, fed_eq_iff]
  split_ifs <;> rfl

theorem close_asRead (s : State) (name : String) :
    s.asRead.close name = (s.close name).map State.asRead := by
  obtain ⟨stack, nodes, place⟩ := s
  cases stack with
  | nil => rfl
  | cons frame rest =>
    simp only [State.close, State.asRead, List.map_cons, Frame.asRead, Tag.asRead]
    split_ifs
    · simp only [Option.map_some, State.asRead, allAsRead_append]
      rfl
    · rfl

theorem add_asRead (s : State) (n : Node) :
    s.asRead.add n.asRead = (s.add n).map State.asRead := by
  simp only [State.add, Option.map_some, State.asRead, allAsRead_append]
  rfl

theorem asRead_comment (text : List Char) :
    (Node.comment (.ofList text)).asRead = .comment (.ofList (joinLineEnds text)) := by
  rw [Node.asRead, Text.withLineFeeds, String.toList_ofList]

theorem asRead_instruction (text : List Char) :
    (Node.instruction (.ofList text)).asRead = .instruction (.ofList (joinLineEnds text)) := by
  rw [Node.asRead, Text.withLineFeeds, String.toList_ofList]

theorem asRead_addAttribute (t : Tag) (name : String) (text : List Char) :
    Tag.asRead ⟨t.name, t.attributes ++ [(name, .ofList text)]⟩ =
      ⟨t.asRead.name, t.asRead.attributes ++ [(name, .ofList (valueAsRead text))]⟩ := by
  simp [Tag.asRead, Markup.asRead]

def State.Followed (s : State) (c : Char) : Prop :=
  s.asRead.parseStep (fed c) = (s.step c).map State.asRead

variable {stack : List Frame} {nodes : List Node} {t : Tag} {name text : List Char}

theorem followed_tagName : State.Followed ⟨stack, nodes, .tagName name⟩ c := by
  simp only [State.Followed, State.asRead, Place.asRead, State.parseStep, State.step,
    isNameChar_fed]
  split_ifs with hc
  · rw [fed_of_isNameChar hc]
    rfl
  · exact goOn_asRead ⟨stack, nodes, _⟩ ⟨.ofList name, []⟩ c

theorem followed_gap : State.Followed ⟨stack, nodes, .gap t⟩ c := by
  simp only [State.Followed, State.asRead, Place.asRead, State.parseStep, State.step,
    isNameStart_fed]
  split_ifs with hc
  · rw [fed_of_isNameStart hc]
    rfl
  · exact goOn_asRead ⟨stack, nodes, _⟩ t c

theorem followed_attributeName : State.Followed ⟨stack, nodes, .attributeName t name⟩ c := by
  have hnames : t.asRead.attributes.map (·.1) = t.attributes.map (·.1) := by
    simp [Tag.asRead, Function.comp_def]
  simp (disch := decide) only [State.Followed, State.asRead, Place.asRead, State.parseStep,
    State.step, isNameChar_fed, fed_eq_iff, hnames]
  split_ifs with hc
  · rw [fed_of_isNameChar hc]
    rfl
  · rfl
  · rfl

/-- A blank in a value becomes a space; another character ends the value or stands as it is. -/
theorem followed_value {key : String}
    (hfeed : c = '\n' → text.getLast? ≠ some '\r') :
    State.Followed ⟨stack, nodes, .value t key text⟩ c := by
  have htext := valueAsRead_concat (c := c) hfeed
  simp (disch := decide) only [State.Followed, State.asRead, Place.asRead, State.parseStep,
    State.step, isBlank_fed, fed_eq_iff]
  cases hblank : isBlank c with
  | true =>
    have hother : c ≠ '"' ∧ c ≠ '&' ∧ c ≠ '<' := by
      refine ⟨?_, ?_, ?_⟩ <;> (rintro rfl; contradiction)
    rw [if_pos rfl, if_neg hother.1, if_neg hother.2.1, if_neg hother.2.2]
    simp only [hblank, if_true] at htext
    rw [← htext]
    rfl
  | false =>
    simp only [hblank, Bool.false_eq_true, if_false] at htext ⊢
    rw [fed_of_not_isBlank hblank, ← htext]
    split_ifs
    · simp only [State.goTo, Option.map_some, State.asRead, Place.asRead, asRead_addAttribute]
    · rfl
    · rfl
    · rfl

theorem followed_endName : State.Followed ⟨stack, nodes, .endName name⟩ c := by
  simp (disch := decide) only [State.Followed, State.asRead, Place.asRead, State.parseStep,
    State.step, isNameChar_fed, fed_eq_iff]
  split_ifs with hend hc
  · exact close_asRead ⟨stack, nodes, _⟩ _
  · rw [fed_of_isNameChar hc]
    rfl
  · rfl

theorem followed_instructionEnd : State.Followed ⟨stack, nodes, .instructionEnd text⟩ c := by
  simp (disch := decide) only [State.Followed, State.asRead, Place.asRead, State.parseStep,
    State.step, fed_eq_iff, ← asRead_instruction, ← joinLineEnds_behind]
  split_ifs with hend hmark
  · exact add_asRead ⟨stack, nodes, _⟩ _
  · obtain rfl := hmark
    have hjoin : joinLineEnds (text ++ ['?']) = joinLineEnds text ++ [fed '?'] :=
      joinLineEnds_concat fun h => absurd h (by decide)
    simp only [State.goTo, Option.map_some, State.asRead, Place.asRead, hjoin]
  · rfl

/-- Outside a reference a parser does what the scan does. -/
theorem followed_of_not_entity (hfeed : c = '\n' → ¬ s.Pending)
    (hplace : ∀ t name text word, s.place ≠ .entity t name text word) : s.Followed c := by
  obtain ⟨stack, nodes, place⟩ := s
  cases place with
  | entity t name text word => exact absurd rfl (hplace t name text word)
  | tag t => exact goOn_asRead _ t c
  | tagName name => exact followed_tagName
  | gap t => exact followed_gap
  | attributeName t name => exact followed_attributeName
  | value t name text => exact followed_value hfeed
  | endName name => exact followed_endName
  | instructionEnd text => exact followed_instructionEnd
  | comment text =>
    simp (disch := decide) only [State.Followed, State.asRead, Place.asRead, State.parseStep,
      State.step, fed_eq_iff, ← joinLineEnds_concat hfeed]
    split_ifs <;> rfl
  | commentDash text =>
    simp (disch := decide) only [State.Followed, State.asRead, Place.asRead, State.parseStep,
      State.step, fed_eq_iff, ← joinLineEnds_behind]
    split_ifs <;> rfl
  | commentEnd text =>
    simp (disch := decide) only [State.Followed, State.asRead, Place.asRead, State.parseStep,
      State.step, fed_eq_iff, ← asRead_comment]
    split_ifs
    · exact add_asRead ⟨stack, nodes, _⟩ _
    · rfl
  | instruction text =>
    simp (disch := decide) only [State.Followed, State.asRead, Place.asRead, State.parseStep,
      State.step, fed_eq_iff, ← joinLineEnds_concat hfeed]
    split_ifs <;> rfl
  | selfClosing t =>
    simp (disch := decide) only [State.Followed, State.asRead, Place.asRead, State.parseStep,
      State.step, fed_eq_iff]
    split_ifs
    · exact add_asRead ⟨stack, nodes, _⟩ (.element t.name t.attributes [])
    · rfl
  | opened =>
    simp (disch := decide) only [State.Followed, State.asRead, Place.asRead, State.parseStep,
      State.step, isNameStart_fed, fed_eq_iff]
    split_ifs with _ _ _ hstart
    all_goals first | rfl | (rw [fed_of_isNameStart hstart]; rfl)
  | _ =>
    simp (disch := decide) only [State.Followed, State.asRead, Place.asRead, State.parseStep,
      State.step, isBlank_fed, fed_eq_iff]
    split_ifs <;> rfl

theorem entity?_plain {word : List Char} {d : Char} (h : entity? word = some d) :
    isBlank d = false ∧ joinLineEnds word = word := by
  unfold entity? at h
  split_ifs at h with hword hword hword hword hword
  all_goals
    obtain rfl := Option.some.inj h
    rw [hword]
    exact ⟨rfl, rfl⟩

/-- One character in a scan is one in a parser, if it is no line feed that a carriage return waits
for. -/
theorem step_asRead (hfeed : c = '\n' → ¬ s.Pending) (h : s.step c = some s') :
    s.asRead.parseStep (fed c) = some s'.asRead := by
  by_cases hplace : ∃ t name text word, s.place = .entity t name text word
  · obtain ⟨stack, nodes, place⟩ := s
    obtain ⟨t, name, text, word, rfl⟩ := hplace
    simp (disch := decide) only [State.asRead, Place.asRead, State.parseStep, State.step,
      fed_eq_iff] at h ⊢
    split_ifs at h ⊢
    · obtain ⟨d, hd, hs⟩ := Option.bind_eq_some_iff.mp h
      obtain rfl := Option.some.inj hs
      obtain ⟨hblank, hword⟩ := entity?_plain hd
      have htext : valueAsRead (text ++ [d]) = valueAsRead text ++ [d] := by
        rw [valueAsRead_concat, hblank]
        · rfl
        · rintro rfl
          contradiction
      rw [hword, hd, Option.some_or, Option.bind_some, ← htext]
      rfl
    · obtain rfl := Option.some.inj h
      rw [← joinLineEnds_concat hfeed]
      rfl
  · have hfollowed : s.Followed c :=
      followed_of_not_entity hfeed fun t name text word h => hplace ⟨t, name, text, word, h⟩
    rw [State.Followed, h] at hfollowed
    exact hfollowed

theorem goOn_not_pending {t : Tag} (h : s.goOn t c = some s') : ¬ s'.Pending := by
  unfold State.goOn at h
  split_ifs at h <;> (obtain rfl := Option.some.inj h; exact id)

theorem close_not_pending {name : String} (h : s.close name = some s') : ¬ s'.Pending := by
  obtain ⟨stack, nodes, place⟩ := s
  cases stack with
  | nil => contradiction
  | cons frame rest =>
    simp only [State.close] at h
    split_ifs at h
    obtain rfl := Option.some.inj h
    exact id

/-- Only a carriage return leaves one behind. -/
theorem not_pending_of_step (hc : c ≠ '\r') (h : s.step c = some s') : ¬ s'.Pending := by
  obtain ⟨stack, nodes, place⟩ := s
  cases place with
  | tag t => exact goOn_not_pending h
  | tagName name =>
    simp only [State.step] at h
    split_ifs at h
    · obtain rfl := Option.some.inj h
      exact id
    · exact goOn_not_pending h
  | gap t =>
    simp only [State.step] at h
    split_ifs at h
    · obtain rfl := Option.some.inj h
      exact id
    · exact goOn_not_pending h
  | endName name =>
    simp only [State.step] at h
    split_ifs at h
    · exact close_not_pending h
    · obtain rfl := Option.some.inj h
      exact id
  | entity t name text word =>
    simp only [State.step] at h
    split_ifs at h
    · obtain ⟨d, hd, hs⟩ := Option.bind_eq_some_iff.mp h
      obtain rfl := Option.some.inj hs
      have hblank := (entity?_plain hd).1
      simp only [State.Pending, List.getLast?_concat, Option.some.injEq]
      rintro rfl
      contradiction
    · obtain rfl := Option.some.inj h
      simpa [State.Pending] using hc
  | _ =>
    simp only [State.step, State.goTo, State.add] at h
    split_ifs at h
    all_goals
      obtain rfl := Option.some.inj h
      simp [State.Pending, hc]

/-- A line feed behind a carriage return adds nothing. -/
theorem asRead_pair (h : s.step '\r' = some s') (h' : s'.step '\n' = some s'') :
    s''.asRead = s'.asRead := by
  obtain ⟨stack, nodes, place⟩ := s
  cases place with
  | comment text =>
    obtain rfl := Option.some.inj h
    obtain rfl := Option.some.inj h'
    exact congrArg (fun cs => State.mk _ _ (.comment cs)) (joinLineEnds_pair (by simp))
  | commentDash text =>
    obtain rfl := Option.some.inj h
    obtain rfl := Option.some.inj h'
    exact congrArg (fun cs => State.mk _ _ (.comment cs)) (joinLineEnds_pair (by simp))
  | instruction text =>
    obtain rfl := Option.some.inj h
    obtain rfl := Option.some.inj h'
    exact congrArg (fun cs => State.mk _ _ (.instruction cs)) (joinLineEnds_pair (by simp))
  | instructionEnd text =>
    obtain rfl := Option.some.inj h
    obtain rfl := Option.some.inj h'
    exact congrArg (fun cs => State.mk _ _ (.instruction cs)) (joinLineEnds_pair (by simp))
  | value t name text =>
    obtain rfl := Option.some.inj h
    obtain rfl := Option.some.inj h'
    exact congrArg (fun cs => State.mk _ _ (.value t.asRead name (spaced cs)))
      (joinLineEnds_pair (by simp))
  | entity t name text word =>
    obtain rfl := Option.some.inj h
    obtain rfl := Option.some.inj h'
    exact congrArg (fun cs => State.mk _ _ (.entity t.asRead name (valueAsRead text) cs))
      (joinLineEnds_pair (by simp))
  | between | tagName | tag | gap =>
    obtain rfl := Option.some.inj h
    obtain rfl := Option.some.inj h'
    rfl
  | _ => contradiction

/-- A parser comes through a text as the scan does: line ends are joined before it starts. -/
theorem Reads.asRead {cs : List Char} (hhead : s.Pending → cs.head? ≠ some '\n')
    (h : Reads s cs s') :
    (joinLineEnds cs).foldlM State.parseStep s.asRead = some s'.asRead := by
  fun_induction joinLineEnds cs generalizing s with
  | case1 rest ih =>
    obtain ⟨s₁, hreturn, h⟩ := Option.bind_eq_some_iff.mp (Reads.cons_iff.mp h)
    obtain ⟨s₂, hfeed, hrest⟩ := Option.bind_eq_some_iff.mp (Reads.cons_iff.mp h)
    have hstep : s.asRead.parseStep '\n' = some s₁.asRead :=
      step_asRead (fun h => absurd h (by decide)) hreturn
    have hpending : ¬ s₂.Pending := not_pending_of_step (by decide) hfeed
    rw [List.foldlM_cons, hstep, ← asRead_pair hreturn hfeed]
    exact ih (fun h => absurd h hpending) hrest
  | case2 rest hno ih =>
    obtain ⟨s₁, hreturn, hrest⟩ := Option.bind_eq_some_iff.mp (Reads.cons_iff.mp h)
    have hstep : s.asRead.parseStep '\n' = some s₁.asRead :=
      step_asRead (fun h => absurd h (by decide)) hreturn
    rw [List.foldlM_cons, hstep]
    refine ih (fun _ hfeed => ?_) hrest
    obtain ⟨more, rfl⟩ := List.head?_eq_some_iff.mp hfeed
    exact hno more rfl
  | case3 c rest hpair hother ih =>
    obtain ⟨s₁, hstep, hrest⟩ := Option.bind_eq_some_iff.mp (Reads.cons_iff.mp h)
    have hc : c ≠ '\r' := fun hc => hother hc
    have hread := step_asRead (fun hfeed hpending => hhead hpending (by rw [hfeed]; rfl)) hstep
    rw [fed_eq hc] at hread
    rw [List.foldlM_cons, hread]
    exact ih (fun h => absurd h (not_pending_of_step hc hstep)) hrest
  | case4 =>
    obtain rfl := Option.some.inj h
    rfl

theorem countP_allAsRead (nodes : List Node) :
    (allAsRead nodes).countP (·.isElement) = nodes.countP (·.isElement) := by
  induction nodes with
  | nil => rfl
  | cons n rest ih =>
    have hsame : n.asRead.isElement = n.isElement := by cases n <;> rfl
    rw [allAsRead, List.countP_cons, List.countP_cons, ih, hsame]

/-- What was scanned can be parsed, if it holds no other characters than a document may. -/
theorem parse_of_scan {text : String} {nodes : List Node} (h : scan text = some nodes)
    (hchars : ∀ c ∈ text.toList, isChar c = true) : parse text = some (allAsRead nodes) := by
  unfold scan at h
  split at h
  · rename_i found hrun
    split_ifs at h with hroot
    obtain rfl := Option.some.inj h
    have hstart : ¬ State.Pending ⟨[], [], .between⟩ := id
    have hread : (joinLineEnds text.toList).foldlM State.parseStep ⟨[], [], .between⟩ =
        some ⟨[], allAsRead found, .between⟩ := Reads.asRead (fun h => absurd h hstart) hrun
    rw [parse, if_pos (List.all_eq_true.mpr hchars), hread]
    simp only [countP_allAsRead, if_pos hroot]
  · contradiction

theorem allAsRead_eq_map (nodes : List Node) : allAsRead nodes = nodes.map Node.asRead := by
  induction nodes with
  | nil => rfl
  | cons n rest ih => rw [allAsRead, ih, List.map_cons]

theorem isNamed_asRead (name : String) (n : Node) : n.asRead.isNamed name = n.isNamed name := by
  cases n <;> rfl

theorem children_asRead (n : Node) : n.asRead.children = n.children.map Node.asRead := by
  cases n with
  | element name attributes children => exact allAsRead_eq_map children
  | _ => rfl

theorem elementsAt_asRead (path : List String) (nodes : List Node) :
    elementsAt path (nodes.map Node.asRead) = (elementsAt path nodes).map Node.asRead := by
  have hnamed (name : String) (list : List Node) : (list.map Node.asRead).filter (·.isNamed name) =
      (list.filter (·.isNamed name)).map Node.asRead := by
    rw [List.filter_map]
    simp only [Function.comp_def, isNamed_asRead]
  fun_induction elementsAt path nodes with
  | case1 => rfl
  | case2 name nodes => exact hnamed name nodes
  | case3 name rest nodes hrest ih =>
    rw [elementsAt, hnamed, List.flatMap_map, ← ih, List.map_flatMap]
    · simp only [children_asRead]
    · exact hrest

/-- A value comes through as it is unless blanks other than spaces stand in it. -/
theorem asRead_eq_iff {value : String} :
    asRead value = value ↔ ∀ c ∈ value.toList, c ≠ '\t' ∧ c ≠ '\n' ∧ c ≠ '\r' := by
  constructor
  · intro h c hc
    rw [← h, asRead, String.toList_ofList, valueAsRead, spaced] at hc
    obtain ⟨d, -, rfl⟩ := List.mem_map.mp hc
    split_ifs with hblank
    · decide
    · refine ⟨?_, ?_, ?_⟩ <;> (rintro rfl; exact hblank rfl)
  · intro h
    have hjoin : joinLineEnds value.toList = value.toList :=
      joinLineEnds_of_not_mem fun hmem => (h _ hmem).2.2 rfl
    have hspaced : spaced value.toList = value.toList := by
      refine (List.map_congr_left fun c hc => ?_).trans (List.map_id _)
      obtain ⟨htab, hfeed, hreturn⟩ := h c hc
      by_cases hspace : c = ' '
      · subst hspace
        rfl
      · simp [isBlank, htab, hfeed, hreturn, hspace]
    rw [asRead, valueAsRead, hjoin, hspaced, String.ofList_toList]

end PixelTelescope.Markup
