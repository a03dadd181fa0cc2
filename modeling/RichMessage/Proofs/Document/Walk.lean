import RichMessage.Proofs.Document.Grouping
import RichMessage.Proofs.Ident.Supply

set_option autoImplicit false

/- A document can be flattened in one walk, in which the source of identifiers goes from hand to
hand: an identifier is drawn at the moment at which a panel is begun or a block is put down. What
the walk leaves are the panels of `RichMessage.Document.Flattening`, where they are numbered after
all of them are known. So identifiers follow the order of reading, one for each panel and each
block, and none is drawn for anything else that the walk comes by. -/
namespace RichMessage

/-- What a walk through a bubble has with it: the source, and the blocks that it has put down. -/
structure Walker (σ : Type) where
  source : σ
  blocks : List Block

namespace Walk

variable {σ : Type} [IdSource σ]

abbrev Steps (σ α : Type) := StateM (Walker σ) α

/-- Puts down a block for a content, under the next identifier. -/
def push (content : Content) : Steps σ PUnit :=
  modify fun walker =>
    let (block, source) := Block.create content walker.source
    { source, blocks := walker.blocks ++ [block] }

/-- Walks along the elements of a box. Below each other, two that make up a bulleted line are put
down together. -/
def along (inHeader vertical : Bool) (inner : Json → Steps σ PUnit) : List Json → Steps σ PUnit
  | [] => pure ()
  | [last] => inner last
  | first :: second :: rest =>
    match if vertical then Content.ofPair? inHeader first second else none with
    | some line => do
      push line
      along inHeader vertical inner rest
    | none => do
      inner first
      along inHeader vertical inner (second :: rest)

/-- Walks through a box, and through its elements by `inner`. -/
def box (inHeader : Bool) (inner : Json → Steps σ PUnit) (node : Json) : Steps σ PUnit :=
  let layout : Option BoxLayout := node.keywordField? "layout"
  match if layout.any BoxLayout.isInline then Content.ofRow? inHeader node.contents else none with
  | some line => push line
  | none => along inHeader (layout == some .vertical) inner node.contents

/-- Walks through an element inside of which so many boxes may still be opened. -/
def element (inHeader : Bool) (room : Nat) (node : Json) : Steps σ PUnit :=
  match node.textField? "type", room with
  | some "box", 0 => pure ()
  | some "box", room + 1 => box inHeader (element inHeader room) node
  | some "text", _ => push (Content.ofText inHeader node)
  | some "image", _ => push (Content.ofImage node)
  | some "button", _ => push (Content.ofButton node)
  | some "separator", _ => push .separator
  | some "spacer", _ => pure ()
  | some "filler", _ => pure ()
  | _, _ => push (Content.plainText ((node.textField? "text").getD ""))

def sectionOf (bubble : Json) (name : String) : Steps σ PUnit :=
  match bubble.field? name with
  | some root => element (name == "header") Content.maxBoxes root
  | none => pure ()

def sections (bubble : Json) : List String → Steps σ PUnit
  | [] => pure ()
  | name :: rest => do
    sectionOf bubble name
    sections bubble rest

def bubble (node : Json) : StateM σ Panel := do
  let id ← modifyGet IdSource.draw
  let source ← get
  let (_, walker) := (sections node Draft.sectionNames).run ⟨source, []⟩
  set walker.source
  let contents := walker.blocks.map Block.content
  return ⟨id, Draft.settingsOfBubble node contents, walker.blocks⟩

/-- Walks along the members of a carousel and passes by those that are no bubbles. -/
def members : List Json → StateM σ (List Panel)
  | [] => return []
  | member :: rest => do
    if member.isObject then
      let panel ← bubble member
      let panels ← members rest
      return panel :: panels
    else members rest

def document (node : Json) : StateM σ (List Panel) := do
  let root := Draft.unwrap node
  if root.hasType "carousel" then members root.contents
  else if root.isObject then
    let panel ← bubble root
    return [panel]
  else return []

end Walk

namespace Walker

variable {σ : Type} [IdSource σ]

/-- The walker after putting down blocks for some contents. -/
def put (walker : Walker σ) (contents : List Content) : Walker σ :=
  let (blocks, source) := Draft.numberContents contents walker.source
  { source, blocks := walker.blocks ++ blocks }

theorem put_nil (walker : Walker σ) : walker.put [] = walker := by
  simp only [put, Draft.numberContents, List.append_nil]

theorem put_append (walker : Walker σ) (first second : List Content) :
    walker.put (first ++ second) = (walker.put first).put second := by
  simp only [put, Draft.numberContents_append, List.append_assoc]

end Walker

namespace Walk

variable {σ : Type} [IdSource σ]

/-- Wherever they are taken, the steps put down blocks for these contents and nothing else. -/
def Puts (steps : Steps σ PUnit) (contents : List Content) : Prop :=
  ∀ walker, steps.run walker = (⟨⟩, walker.put contents)

theorem puts_pure : Puts (pure ⟨⟩ : Steps σ PUnit) [] := by
  intro walker
  rw [Walker.put_nil]
  rfl

theorem puts_push (content : Content) : Puts (push content : Steps σ PUnit) [content] := by
  intro walker
  rfl

theorem Puts.seq {first second : Steps σ PUnit} {front back : List Content}
    (puts : Puts first front) (goesOn : Puts second back) :
    Puts (do first; second) (front ++ back) := by
  intro walker
  rw [Walker.put_append]
  simp only [StateT.run_bind, puts walker]
  exact goesOn (walker.put front)

/-- Elements side by side are put down one after the other. -/
theorem puts_along_row {inHeader : Bool} {inner : Json → Steps σ PUnit} {read : Json → List Content}
    (each : ∀ node, Puts (inner node) (read node)) (contents : List Json) :
    Puts (along inHeader false inner contents) (contents.flatMap read) := by
  fun_induction along inHeader false inner contents with
  | case1 => exact puts_pure
  | case2 last =>
      rw [List.flatMap_singleton]
      exact each last
  | case3 first second rest line paired ih => cases paired
  | case4 first second rest apart ih =>
      rw [List.flatMap_cons]
      exact (each first).seq ih

/-- Elements below each other are put down from the top on, bulleted lines as one. -/
theorem puts_along_column {inHeader : Bool} {inner : Json → Steps σ PUnit}
    {read : Json → List Content} (each : ∀ node, Puts (inner node) (read node))
    (contents : List Json) :
    Puts (along inHeader true inner contents) (Content.ofColumn inHeader read contents) := by
  fun_induction along inHeader true inner contents with
  | case1 => exact puts_pure
  | case2 last => exact each last
  | case3 first second rest line paired ih =>
      simp only [if_true] at paired
      simp only [Content.ofColumn, paired]
      exact (puts_push line).seq ih
  | case4 first second rest apart ih =>
      simp only [if_true] at apart
      simp only [Content.ofColumn, apart]
      exact (each first).seq ih

/-- A box is put down as it is read. -/
theorem puts_box {inHeader : Bool} {inner : Json → Steps σ PUnit} {read : Json → List Content}
    (each : ∀ node, Puts (inner node) (read node)) (node : Json) :
    Puts (box inHeader inner node) (Content.ofBox inHeader read node) := by
  unfold box Content.ofBox
  cases (node.keywordField? "layout" : Option BoxLayout) with
  | none => exact puts_along_row each node.contents
  | some layout =>
      cases layout with
      | vertical => exact puts_along_column each node.contents
      | horizontal | baseline =>
          simp only [Option.any_some, BoxLayout.isInline, if_true]
          cases Content.ofRow? inHeader node.contents with
          | none => exact puts_along_row each node.contents
          | some line => exact puts_push line

/-- An element that is not a box is put down as one block, or not at all. -/
theorem puts_leaf {inHeader : Bool} {node : Json} (room : Nat)
    (other : node.textField? "type" ≠ some "box") :
    Puts (element inHeader room node : Steps σ PUnit) (Content.ofLeaf inHeader node) := by
  unfold element Content.ofLeaf
  split
  case h_1 box | h_2 box => exact absurd box other
  case h_3 text =>
    rw [text]
    exact puts_push _
  case h_4 image =>
    rw [image]
    exact puts_push _
  case h_5 button =>
    rw [button]
    exact puts_push _
  case h_6 separator =>
    rw [separator]
    exact puts_push _
  case h_7 space | h_8 space =>
    rw [space]
    exact puts_pure
  case h_9 =>
    split <;> first | exact puts_push _ | contradiction

/-- An element is put down as it is read; a box that is too deep is passed by. -/
theorem puts_element (inHeader : Bool) (room : Nat) (node : Json) :
    Puts (element inHeader room node : Steps σ PUnit) (Content.ofElement inHeader room node) := by
  induction room generalizing node with
  | zero =>
      by_cases isBox : node.textField? "type" = some "box"
      · simp only [element, isBox, Content.ofElement, Content.ofLeaf]
        exact puts_pure
      · exact puts_leaf 0 isBox
  | succ room ih =>
      by_cases isBox : node.textField? "type" = some "box"
      · simp only [element, isBox, Content.ofElement, Json.hasType, beq_self_eq_true, if_true]
        exact puts_box ih node
      · rw [Content.ofElement_of_not_box _ (by simpa [Json.hasType] using isBox)]
        exact puts_leaf (room + 1) isBox

theorem puts_sectionOf (bubble : Json) (name : String) :
    Puts (sectionOf bubble name : Steps σ PUnit) (Content.ofSection bubble name) := by
  unfold sectionOf Content.ofSection
  cases bubble.field? name with
  | none => exact puts_pure
  | some root => exact puts_element (name == "header") Content.maxBoxes root

theorem puts_sections (bubble : Json) (names : List String) :
    Puts (sections bubble names : Steps σ PUnit) (names.flatMap (Content.ofSection bubble)) := by
  induction names with
  | nil => exact puts_pure
  | cons name rest ih =>
      rw [List.flatMap_cons]
      exact (puts_sectionOf bubble name).seq ih

theorem run_bubble_eq (node : Json) (source : σ) :
    (bubble node).run source =
      let (id, source) := IdSource.draw source
      let walker := ((sections node Draft.sectionNames).run ⟨source, []⟩).2
      let contents := walker.blocks.map Block.content
      (⟨id, Draft.settingsOfBubble node contents, walker.blocks⟩, walker.source) :=
  rfl

/-- The panel of a walk through a bubble is the numbered draft of the bubble. -/
theorem run_bubble (node : Json) (source : σ) :
    (bubble node).run source = (Draft.ofBubble node).number source := by
  have put := puts_sections node Draft.sectionNames ⟨(IdSource.draw source).2, []⟩
  have contents := Draft.contents_numberContents
    (Draft.sectionNames.flatMap (Content.ofSection node)) (IdSource.draw source).2
  rw [run_bubble_eq]
  simp only [put, Walker.put, List.nil_append, contents]
  rfl

/-- The members of a carousel that are no bubbles are passed by. -/
theorem run_members (nodes : List Json) (source : σ) :
    (members nodes).run source =
      Draft.numberAll ((nodes.filter Json.isObject).map Draft.ofBubble) source := by
  induction nodes generalizing source with
  | nil => rfl
  | cons member rest ih =>
      cases object : member.isObject with
      | true =>
          simp only [members, object, if_true, StateT.run_bind, run_bubble, StateT.run_pure,
            List.filter_cons, List.map_cons, Draft.numberAll, ih]
          rfl
      | false =>
          simp only [members, object, Bool.false_eq_true, if_false, List.filter_cons, ih]

/-- A walk through a document gives its panels, numbered in the order of reading. -/
theorem run_document (node : Json) (source : σ) :
    (document node).run source = Panel.ofNode node source := by
  simp only [document, Panel.ofNode, Draft.ofNode]
  split
  · exact run_members _ source
  · split
    · simp only [StateT.run_bind, run_bubble]
      rfl
    · rfl

end Walk

/-- The bubbles of a document: the objects of a carousel, or the document itself. -/
def bubblesOf (document : Json) : List Json :=
  let root := Draft.unwrap document
  if root.hasType "carousel" then root.contents.filter Json.isObject
  else if root.isObject then [root]
  else []

theorem ofNode_eq_map (document : Json) :
    Draft.ofNode document = (bubblesOf document).map Draft.ofBubble := by
  unfold Draft.ofNode bubblesOf
  dsimp only
  split
  · rfl
  · split <;> rfl

/-- A panel has one block for every group of leaves of its bubble. -/
theorem length_contents_ofBubble (bubble : Json) :
    (groupsOf bubble).length = (Draft.ofBubble bubble).contents.length :=
  (shows_groupsOf bubble).length_eq

/-- In a walk through a document identifiers are drawn in the order of reading, one for each panel
and then one for each of its blocks, and none besides; a block is one leaf or one bulleted line. A
sequence goes on with the numbers behind those that it has issued, which are all different. -/
theorem identifiers_drawn_in_reading_order (document : Json) (seed : String) (drawn : UInt32) :
    let done := (Walk.document document).run ({ source := { seed, drawn } } : Recorder Sequence)
    let panels := done.1
    let issued := done.2.issued
    (panels, done.2.source) = Panel.ofNode document { seed, drawn } ∧
    issued = Panel.allIdents panels ∧
    issued.length = panels.length + (panels.flatMap Panel.blocks).length ∧
    List.Forall₂ (fun bubble panel => ∃ groups : List LeafGroup,
        groups.flatMap LeafGroup.leaves = leavesOf bubble ∧
        (∀ bullet label, .line bullet label ∈ groups ↔ SiblingPair bubble bullet label) ∧
        groups.length = panel.blocks.length)
      (bubblesOf document) panels ∧
    (drawn.toNat + issued.length < UInt32.size →
      issued = ((List.range issued.length).map fun i =>
        seed ++ "-" ++ (drawn.toNat + 1 + i).repr) ∧
      issued.Nodup ∧
      done.2.source.seed = seed ∧ done.2.source.drawn.toNat = drawn.toNat + issued.length) := by
  intro done panels issued
  let start : Sequence := { seed, drawn }
  let count := Draft.totalSize (Draft.ofNode document)
  have walked : done = Panel.ofNode document { source := start } := Walk.run_document document _
  have sources : done.2 = ⟨IdSource.advance count start, IdSource.issue count start⟩ := by
    rw [walked, Panel.ofNode, Draft.source_numberAll, Recorder.advance_eq]
    rfl
  have names : Panel.allIdents panels = IdSource.issue count start := by
    change Panel.allIdents done.1 = _
    rw [walked, Panel.ofNode, Draft.allIdents_numberAll, Recorder.issue_eq]
  have record : issued = IdSource.issue count start := congrArg Recorder.issued sources
  have left : done.2.source = IdSource.advance count start := congrArg Recorder.source sources
  have drafts : panels.map Panel.draft = (bubblesOf document).map Draft.ofBubble := by
    change done.1.map Panel.draft = _
    rw [walked, ← ofNode_eq_map]
    exact Draft.drafts_numberAll _ _
  refine ⟨?_, record.trans names.symm, ?_, ?_, ?_⟩
  · change (done.1, done.2.source) = Panel.ofNode document start
    rw [left, walked, Panel.ofNode, Panel.ofNode, Draft.numberAll_recorder,
      ← Draft.source_numberAll]
  · rw [record, ← names]
    exact Panel.length_allIdents panels
  · have matched : List.Forall₂ (fun bubble panel => Draft.ofBubble bubble = Panel.draft panel)
        (bubblesOf document) panels := by
      have equal : List.Forall₂ Eq ((bubblesOf document).map Draft.ofBubble)
          (panels.map Panel.draft) := by
        rw [drafts]
        exact List.forall₂_refl _
      exact List.forall₂_map_right_iff.mp (List.forall₂_map_left_iff.mp equal)
    refine matched.imp ?_
    intro bubble panel same
    refine ⟨groupsOf bubble, leaves_groupsOf bubble, fun _ _ => line_mem_groupsOf, ?_⟩
    rw [length_contents_ofBubble, same]
    exact List.length_map _
  · intro room
    have length : issued.length = count := by
      rw [record, IdSource.length_issue]
    rw [length] at room ⊢
    rw [record, left, Sequence.advance_eq]
    refine ⟨Sequence.issue_eq_map_range seed drawn count room,
      Sequence.nodup_issue_from seed drawn count room, rfl, ?_⟩
    have word : count < UInt32.size := by omega
    rw [UInt32.toNat_add, UInt32.toNat_ofNat_of_lt' word]
    exact Nat.mod_eq_of_lt room

/-- A carousel of something that is no bubble and of one that holds a bulleted line and a space. -/
def carouselWithLine : Json :=
  .obj
    [("contents", .arr
      [.null,
        .obj
          [("body", .obj
            [("contents", .arr
              [.obj [("text", .str "●"), ("type", .str "text")],
                .obj [("text", .str "Parking"), ("type", .str "text")],
                .obj [("type", .str "spacer")]]),
              ("layout", .str "vertical"), ("type", .str "box")]),
            ("type", .str "bubble")]]),
      ("type", .str "carousel")]

/-- Only the panel and the line get identifiers. -/
theorem identifiers_of_carouselWithLine :
    let start : Recorder Sequence := { source := { seed := "m", drawn := 2 } }
    let done := (Walk.document carouselWithLine).run start
    2 + done.2.issued.length < UInt32.size ∧ done.2.issued = ["m-3", "m-4"] ∧
      Panel.allIdents done.1 = ["m-3", "m-4"] := by
  intro start done
  have two : done.2.issued.length = 2 := by decide +kernel
  have room : 2 + done.2.issued.length < UInt32.size := by
    rw [two]
    decide
  obtain ⟨_, ordered, _, _, spelled⟩ := identifiers_drawn_in_reading_order carouselWithLine "m" 2
  obtain ⟨names, _⟩ := spelled room
  have issued : done.2.issued = ["m-3", "m-4"] := by
    refine names.trans ?_
    rw [two]
    decide +kernel
  exact ⟨room, issued, ordered.symm.trans issued⟩

end RichMessage
