import PixelTelescope.Proofs.Gear.Structure
import PixelTelescope.Proofs.Markup.AsRead

namespace PixelTelescope.Gear

open Markup (AllTell IsText allTell_flatMap elementsAt isText_append isText_of_visible)

theorem isText_remark {name : String} (h : IsText name) : IsText (remark name) := by
  intro c hc
  rw [remark, String.toList_ofList] at hc
  rcases Markup.mem_separated hc with hc | rfl
  · exact h c hc
  · rfl

structure Document.Writable (d : Document Float) : Prop where
  detectorName : IsText d.detectorName
  layers : ∀ l ∈ d.layers, IsText l.detector ∧ IsText l.type

theorem isText_amount (x : Float) : IsText (amount x) :=
  isText_of_visible (Decimal.visible_rounded 6 _)

theorem isText_tenths (x : Float) : IsText (Decimal.tenths x) :=
  isText_of_visible (Decimal.visible_tenths x)

theorem isText_int (n : Int) : IsText (toString n) :=
  isText_of_visible (Text.visible_int n)

theorem isText_nat (n : Nat) : IsText (toString n) :=
  isText_of_visible (Text.visible_nat n)

theorem Ladder.outline_isText (l : Ladder Float) : l.outline.Tells IsText := by
  simp only [Ladder.outline, Markup.Node.Tells, AllTell, List.forall_mem_cons, List.not_mem_nil,
    IsEmpty.forall_iff, implies_true, isText_amount, isText_int, and_self]

theorem Sensitive.outline_isText (s : Sensitive Float) : s.outline.Tells IsText := by
  simp only [Sensitive.outline, Markup.Node.Tells, AllTell, List.forall_mem_cons, List.not_mem_nil,
    IsEmpty.forall_iff, implies_true, isText_amount, isText_int, isText_tenths, and_self]

theorem Layer.outline_isText {l : Layer Float} (hdetector : IsText l.detector)
    (htype : IsText l.type) : AllTell IsText l.outline := by
  refine ⟨?_, ⟨List.forall_mem_nil _, l.ladder.outline_isText, l.sensitive.outline_isText, trivial⟩,
    trivial⟩
  simp only [Markup.Node.Tells, isText_append]
  exact ⟨⟨⟨⟨isText_of_visible (by decide), isText_remark hdetector⟩, isText_of_visible (by decide)⟩,
    isText_remark htype⟩, isText_of_visible (by decide)⟩

theorem fieldOutline_isText (v : Geometry.Vec3 Float) : (fieldOutline v).Tells IsText := by
  have hcomponent (isNull : Bool) (x : Float) : IsText (if isNull then "0.0" else amount x) := by
    split
    · exact isText_of_visible (by decide)
    · exact isText_amount x
  have htype : IsText "ConstantBField" := isText_of_visible (by decide)
  simp only [fieldOutline, Markup.Node.Tells, AllTell, List.forall_mem_cons, List.not_mem_nil,
    IsEmpty.forall_iff, implies_true, htype, hcomponent, and_self]

/-- All that a document tells may stand in a text if its names may. -/
theorem Document.outline_isText {d : Document Float} (h : d.Writable) :
    AllTell IsText d.outline := by
  have hlayers : AllTell IsText (d.layers.flatMap Layer.outline) :=
    allTell_flatMap fun l hl => Layer.outline_isText (h.layers l hl).1 (h.layers l hl).2
  simp (disch := decide) only [Document.outline, Markup.Node.Tells, AllTell, List.forall_mem_cons,
    List.not_mem_nil, IsEmpty.forall_iff, implies_true, isText_of_visible, h.detectorName,
    fieldOutline_isText, isText_nat, hlayers, and_self]

/-- A parser finds in the text all that the document tells, as it reads it. -/
theorem Document.parse_text {d : Document Float} (h : d.Writable) :
    Markup.parse d.text = some (d.outline.map Markup.Node.asRead) := by
  rw [← Markup.allAsRead_eq_map]
  refine Markup.parse_of_scan d.scan_text ?_
  rw [Document.text, String.toList_ofList]
  refine d.items_sound.isText ?_
  rw [d.items_nodes]
  exact d.outline_isText h

def namesIn (nodes : List Markup.Node) : List (Option String) :=
  (elementsAt ["gear", "global"] nodes).map (·.attribute? "detectorName")

theorem Document.namesIn_parsed (d : Document Float) :
    namesIn (d.outline.map Markup.Node.asRead) = [some (Markup.asRead d.detectorName)] := by
  rw [namesIn, Markup.elementsAt_asRead, List.map_map]
  have hglobal : elementsAt ["gear", "global"] d.outline =
      [.element "global" [("detectorName", d.detectorName)] []] := rfl
  rw [hglobal]
  rfl

/-- The name of a telescope comes through the text and a parser as it is, unless it holds a tab or a
line end: these are read as spaces, a pair of them that ends a line as one. -/
theorem name_read_back {d : Document Float} (h : d.Writable) :
    ∃ nodes, Markup.parse d.text = some nodes ∧
      namesIn nodes = [some (Markup.asRead d.detectorName)] ∧
      (Markup.asRead d.detectorName = d.detectorName ↔
        ∀ c ∈ d.detectorName.toList, c ≠ '\t' ∧ c ≠ '\n' ∧ c ≠ '\r') :=
  ⟨_, d.parse_text h, d.namesIn_parsed, Markup.asRead_eq_iff⟩

def oneLayer (name : String) : Document Float where
  detectorName := name
  field := ⟨0.0, 0.0, 0.5⟩
  layers := [planeLayer 0]

theorem oneLayer_writable {name : String} (h : IsText name) : (oneLayer name).Writable where
  detectorName := h
  layers := by
    simp only [oneLayer, planeLayer, List.forall_mem_singleton]
    exact ⟨isText_of_visible (by decide), isText_of_visible (by decide)⟩

theorem name_read_back_quoted : ∃ nodes,
    Markup.parse (oneLayer "DESY <T22> & \"TB&amp;21\"").text = some nodes ∧
      namesIn nodes = [some "DESY <T22> & \"TB&amp;21\""] := by
  have hvisible : Text.Visible "DESY <T22> & \"TB&amp;21\"" := by decide
  obtain ⟨nodes, hparse, hread, hiff⟩ :=
    name_read_back (oneLayer_writable (isText_of_visible hvisible))
  refine ⟨nodes, hparse, hread.trans ?_⟩
  rw [hiff.mpr fun c hc => ?_]
  · rfl
  · have hspace := (hvisible c hc).1
    refine ⟨?_, ?_, ?_⟩ <;> (rintro rfl; exact absurd hspace (by decide))

/-- A tab in a name is written as it stands, and so it is lost. -/
theorem tab_read_as_space : (oneLayer "a\tb").Writable ∧ ∃ nodes,
    Markup.parse (oneLayer "a\tb").text = some nodes ∧ namesIn nodes = [some "a b"] ∧
      namesIn nodes ≠ [some (oneLayer "a\tb").detectorName] := by
  have hwritable : (oneLayer "a\tb").Writable := by
    refine oneLayer_writable ?_
    have hchars : "a\tb".toList = ['a', '\t', 'b'] := by decide
    simp only [IsText, hchars, List.forall_mem_cons]
    exact ⟨rfl, rfl, rfl, List.forall_mem_nil _⟩
  have hname : namesIn ((oneLayer "a\tb").outline.map Markup.Node.asRead) = [some "a b"] :=
    Document.namesIn_parsed _
  refine ⟨hwritable, _, Document.parse_text hwritable, hname, ?_⟩
  rw [hname]
  decide

end PixelTelescope.Gear
