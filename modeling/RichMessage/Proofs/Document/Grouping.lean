import Mathlib.Data.List.Forall2
import RichMessage.Proofs.Document.Elements
import RichMessage.Proofs.Document.Leaves
import RichMessage.Proofs.Document.Parts
import RichMessage.Proofs.Panel.Numbering

set_option autoImplicit false

namespace RichMessage

namespace Spot

/-- Whether an element is in the header, where texts have no color of their own. -/
def inHeader (spot : Spot) : Bool :=
  Draft.sectionNames[spot.area]? == some "header"

/-- The color that a text is read with. -/
def color? (spot : Spot) : Option String :=
  if spot.inHeader then none else spot.node.textField? "color"

/-- Where a child of an element stands. -/
def child (parent : Spot) (i : Nat) (node : Json) : Spot :=
  ⟨parent.area, parent.trail ++ [i], node⟩

end Spot

/-- Whether two leaves are a bulleted line: the box of the bubble that they are in, not itself in
too many boxes, has them paired. -/
def SiblingPair (bubble : Json) (bullet label : Spot) : Prop :=
  ∃ (box : Spot) (i : Nat) (first second : Json),
    box.In bubble ∧ box.node.hasType "box" = true ∧ box.trail.length < Content.maxBoxes ∧
      box.node.Paired i first second ∧ bullet = box.child i first ∧ label = box.child (i + 1) second

/-- Whether a text is a heading: bold and large. -/
def Json.IsHeading (node : Json) (size : FontSize) : Prop :=
  node.textField? "weight" = some "bold" ∧ node.keywordField? "size" = some size ∧
    size.isLarge = true

/-- Leaves that are one block together. -/
inductive LeafGroup where
  | single (leaf : Spot)
  | line (bullet label : Spot)

namespace LeafGroup

def leaves : LeafGroup → List Spot
  | .single leaf => [leaf]
  | .line bullet label => [bullet, label]

/-- The same group seen from the box around it. -/
def under (i : Nat) : LeafGroup → LeafGroup
  | .single leaf => .single (leaf.under i)
  | .line bullet label => .line (bullet.under i) (label.under i)

/-- What a group is as the content of a block. -/
inductive Shows : LeafGroup → Content → Prop where
  | line (bullet label : Spot) :
    Shows (.line bullet label)
      (.text
        { text := Bullet.join bullet.node.shownText label.node.shownText
          size := label.node.keywordField? "size"
          color := label.color?
          wrap := Content.wrapOfNode label.node })
  | title (leaf : Spot) (size : FontSize) (text : leaf.node.textField? "type" = some "text")
    (heading : leaf.node.IsHeading size) :
    Shows (.single leaf) (.title { text := leaf.node.shownText, size, color := leaf.color? })
  | text (leaf : Spot) (text : leaf.node.textField? "type" = some "text")
    (plain : ∀ size, ¬ leaf.node.IsHeading size) :
    Shows (.single leaf)
      (.text
        { text := leaf.node.shownText
          size := leaf.node.keywordField? "size"
          color := leaf.color?
          wrap := Content.wrapOfNode leaf.node })
  | image (leaf : Spot) (image : leaf.node.textField? "type" = some "image") :
    Shows (.single leaf) (Content.ofImage leaf.node)
  | button (leaf : Spot) (button : leaf.node.textField? "type" = some "button") :
    Shows (.single leaf) (Content.ofButton leaf.node)
  | separator (leaf : Spot) (separator : leaf.node.textField? "type" = some "separator") :
    Shows (.single leaf) .separator
  | other (leaf : Spot)
    (unknown : ∀ type ∈ ["text", "image", "button", "separator"],
      leaf.node.textField? "type" ≠ some type) :
    Shows (.single leaf) (Content.plainText ((leaf.node.textField? "text").getD ""))

theorem Shows.under {group : LeafGroup} {content : Content} (i : Nat)
    (shown : group.Shows content) : (group.under i).Shows content := by
  cases shown with
  | line bullet label => exact .line (bullet.under i) (label.under i)
  | title leaf size text heading => exact .title (leaf.under i) size text heading
  | text leaf text plain => exact .text (leaf.under i) text plain
  | image leaf image => exact .image (leaf.under i) image
  | button leaf button => exact .button (leaf.under i) button
  | separator leaf separator => exact .separator (leaf.under i) separator
  | other leaf unknown => exact .other (leaf.under i) unknown

theorem leaves_under (i : Nat) (group : LeafGroup) :
    (group.under i).leaves = group.leaves.map (Spot.under i) := by
  cases group <;> rfl

end LeafGroup

section Within

variable {area : Nat}

/-- The groups of a part of a box, those of single children given by `inner`. -/
def groupsOfPart (area : Nat) (inner : Json → List LeafGroup) : BoxPart → List LeafGroup
  | .alone i child => (inner child).map (.under i)
  | .line i bullet label _ => [.line ⟨area, [i], bullet⟩ ⟨area, [i + 1], label⟩]

/-- The groups of an element, those in too many boxes left out. -/
def groupsWithin (area : Nat) : Nat → Json → List LeafGroup
  | 0, node => (leafAt area node).map .single
  | depth + 1, node =>
    if node.hasType "box" then node.parts.flatMap (groupsOfPart area (groupsWithin area depth))
    else (leafAt area node).map .single

theorem groupsWithin_of_not_box (depth : Nat) {node : Json} (other : node.hasType "box" = false) :
    groupsWithin area depth node = (leafAt area node).map .single := by
  cases depth with
  | zero => rfl
  | succ depth => rw [groupsWithin, other, if_neg Bool.false_ne_true]

theorem isLeaf_of_text {node : Json} (text : node.textField? "type" = some "text") :
    node.IsLeaf := by
  simp [Json.IsLeaf, text]

theorem leavesWithin_of_text (depth : Nat) {node : Json}
    (text : node.textField? "type" = some "text") :
    leavesWithin area depth node = [⟨area, [], node⟩] := by
  have leaf := isLeaf_of_text text
  rw [leavesWithin_of_not_box depth leaf.not_box, leafAt_of_isLeaf leaf]

theorem leaves_groupsOfPart {depth : Nat} {inner : Json → List LeafGroup}
    (below : ∀ child, (inner child).flatMap LeafGroup.leaves = leavesWithin area depth child)
    (part : BoxPart) :
    (groupsOfPart area inner part).flatMap LeafGroup.leaves =
      part.children.flatMap fun (child, i) => (leavesWithin area depth child).map (.under i) := by
  cases part with
  | alone i child =>
      simp only [groupsOfPart, BoxPart.children, List.flatMap_map, LeafGroup.leaves_under,
        List.flatMap_cons, List.flatMap_nil, List.append_nil, ← below child, List.map_flatMap]
  | line i bullet label pair =>
      obtain ⟨left, right, _⟩ := Json.isLine_iff.mp pair
      simp only [groupsOfPart, BoxPart.children, LeafGroup.leaves, List.flatMap_cons,
        List.flatMap_nil, List.append_nil, leavesWithin_of_text depth left,
        leavesWithin_of_text depth right]
      rfl

theorem leaves_groupsWithin (depth : Nat) (node : Json) :
    (groupsWithin area depth node).flatMap LeafGroup.leaves = leavesWithin area depth node := by
  have single (spots : List Spot) :
      (spots.map LeafGroup.single).flatMap LeafGroup.leaves = spots := by
    rw [List.flatMap_map]
    exact List.flatMap_singleton' spots
  induction depth generalizing node with
  | zero => exact single (leafAt area node)
  | succ depth ih =>
      by_cases box : node.hasType "box" = true
      · rw [groupsWithin, if_pos box, leavesWithin, if_pos box, List.flatMap_assoc,
          ← node.children_parts, List.flatMap_assoc]
        exact List.flatMap_congr fun part _ => leaves_groupsOfPart ih part
      · have other := Bool.of_not_eq_true box
        rw [groupsWithin_of_not_box _ other, leavesWithin_of_not_box _ other]
        exact single (leafAt area node)

/-- Whether two leaves are a bulleted line of a box that a way inwards leads to. -/
def PairWithin (area depth : Nat) (node : Json) (bullet label : Spot) : Prop :=
  ∃ trail box i first second,
    node.descend? trail = some box ∧ box.hasType "box" = true ∧ trail.length < depth ∧
      box.Paired i first second ∧ bullet = (Spot.mk area trail box).child i first ∧
        label = (Spot.mk area trail box).child (i + 1) second

theorem box_of_descend? {node box : Json} {trail : List Nat}
    (leads : node.descend? trail = some box) (inner : box.hasType "box" = true) :
    node.hasType "box" = true := by
  by_contra other
  obtain ⟨_, rfl⟩ := (descend?_of_not_box (Bool.of_not_eq_true other)).mp leads
  exact other inner

theorem line_not_mem_of_not_box {depth : Nat} {node : Json} {bullet label : Spot}
    (other : node.hasType "box" = false) :
    .line bullet label ∉ groupsWithin area depth node := by
  simp [groupsWithin_of_not_box depth other]

/-- A child that is a box is a part of its own. -/
theorem alone_mem_parts {node child : Json} {i : Nat} (inside : node.contents[i]? = some child)
    (box : child.hasType "box" = true) : .alone i child ∈ node.parts := by
  have numbered : (child, i) ∈ node.contents.zipIdx := List.mem_zipIdx_iff_getElem?.mpr inside
  rw [← node.children_parts] at numbered
  obtain ⟨part, listed, member⟩ := List.mem_flatMap.mp numbered
  cases part with
  | alone k other =>
      cases List.mem_singleton.mp member
      exact listed
  | line k bullet label pair =>
      -- the two children of a line are texts
      obtain ⟨left, right, _⟩ := Json.isLine_iff.mp pair
      simp only [BoxPart.children, List.mem_cons, Prod.mk.injEq, List.not_mem_nil, or_false]
        at member
      rcases member with ⟨rfl, _⟩ | ⟨rfl, _⟩
      · simp [Json.hasType, left] at box
      · simp [Json.hasType, right] at box

theorem line_mem_groupsOfPart {inner : Json → List LeafGroup} {part : BoxPart}
    {bullet label : Spot} :
    .line bullet label ∈ groupsOfPart area inner part ↔
      (∃ i first second pair, part = .line i first second pair ∧ bullet = ⟨area, [i], first⟩ ∧
        label = ⟨area, [i + 1], second⟩) ∨
      ∃ i child left right, part = .alone i child ∧ .line left right ∈ inner child ∧
        bullet = left.under i ∧ label = right.under i := by
  cases part with
  | alone i child =>
      simp only [groupsOfPart, List.mem_map, reduceCtorEq, false_and, exists_false, false_or,
        BoxPart.alone.injEq]
      constructor
      · rintro ⟨group, listed, same⟩
        cases group with
        | single leaf => cases same
        | line left right =>
            cases same
            exact ⟨i, child, left, right, ⟨rfl, rfl⟩, listed, rfl, rfl⟩
      · rintro ⟨_, _, left, right, ⟨rfl, rfl⟩, listed, rfl, rfl⟩
        exact ⟨.line left right, listed, rfl⟩
  | line i first second pair =>
      simp only [groupsOfPart, List.mem_singleton, LeafGroup.line.injEq, reduceCtorEq, false_and,
        exists_false, or_false]
      constructor
      · rintro ⟨rfl, rfl⟩
        exact ⟨i, first, second, pair, rfl, rfl, rfl⟩
      · rintro ⟨_, _, _, _, same, rfl, rfl⟩
        cases same
        exact ⟨rfl, rfl⟩

/-- The groups of two are the pairs in boxes that are not too deep. -/
theorem line_mem_groupsWithin {depth : Nat} {node : Json} {bullet label : Spot} :
    .line bullet label ∈ groupsWithin area depth node ↔
      PairWithin area depth node bullet label := by
  induction depth generalizing node bullet label with
  | zero =>
      constructor
      · intro listed
        simp [groupsWithin] at listed
      · rintro ⟨_, _, _, _, _, _, _, short, _⟩
        exact absurd short (Nat.not_lt_zero _)
  | succ depth ih =>
      by_cases box : node.hasType "box" = true
      case neg =>
        constructor
        · intro listed
          exact absurd listed (line_not_mem_of_not_box (Bool.of_not_eq_true box))
        · rintro ⟨_, _, _, _, _, leads, inner, _⟩
          exact absurd (box_of_descend? leads inner) box
      case pos =>
        rw [groupsWithin, if_pos box]
        simp only [List.mem_flatMap, line_mem_groupsOfPart, ih]
        constructor
        · rintro ⟨part, listed, ⟨i, first, second, pair, rfl, rfl, rfl⟩ |
            ⟨i, child, _, _, rfl, ⟨trail, inner, k, first, second, leads, isBox, short, paired, rfl,
              rfl⟩, rfl, rfl⟩⟩
          · exact ⟨[], node, i, first, second, rfl, box, Nat.succ_pos _,
              (Json.line_mem_parts_iff pair).mp listed, rfl, rfl⟩
          · have inside := Json.contents_of_mem_parts listed (List.mem_singleton_self _)
            exact ⟨i :: trail, inner, k, first, second,
              (descend?_of_box box).mpr ⟨child, inside, leads⟩, isBox, Nat.succ_lt_succ short,
              paired, rfl, rfl⟩
        · rintro ⟨trail, inner, k, first, second, leads, isBox, short, paired, rfl, rfl⟩
          cases trail with
          | nil =>
              cases leads
              exact ⟨.line k first second paired.isLine,
                (Json.line_mem_parts_iff paired.isLine).mpr paired,
                .inl ⟨k, first, second, paired.isLine, rfl, rfl, rfl⟩⟩
          | cons i rest =>
              obtain ⟨child, inside, further⟩ := (descend?_of_box box).mp leads
              exact ⟨.alone i child, alone_mem_parts inside (box_of_descend? further isBox),
                .inr ⟨i, child, _, _, rfl, ⟨rest, inner, k, first, second, further, isBox,
                  Nat.lt_of_succ_lt_succ short, paired, rfl, rfl⟩, rfl, rfl⟩⟩

theorem ofText_of_heading {inHeader : Bool} {node : Json} {size : FontSize}
    (heading : node.IsHeading size) :
    Content.ofText inHeader node =
      .title { text := node.shownText, size, color := Content.colorOfNode inHeader node } := by
  obtain ⟨bold, given, large⟩ := heading
  simp only [Content.ofText, given, bold, large, beq_self_eq_true, Bool.and_self, if_true]

theorem ofText_of_plain {inHeader : Bool} {node : Json} (plain : ∀ size, ¬ node.IsHeading size) :
    Content.ofText inHeader node =
      .text
        { text := node.shownText
          size := node.keywordField? "size"
          color := Content.colorOfNode inHeader node
          wrap := Content.wrapOfNode node } := by
  cases given : (node.keywordField? "size" : Option FontSize) with
  | none => simp only [Content.ofText, given]
  | some size =>
      have small : (node.textField? "weight" == some "bold" && size.isLarge) = false := by
        rw [Bool.eq_false_iff]
        intro both
        obtain ⟨bold, large⟩ := Bool.and_eq_true_iff.mp both
        exact plain size ⟨beq_iff_eq.mp bold, given, large⟩
      simp only [Content.ofText, given, small, Bool.false_eq_true, if_false]

theorem shows_text (leaf : Spot) (text : leaf.node.textField? "type" = some "text") :
    (LeafGroup.single leaf).Shows (Content.ofText leaf.inHeader leaf.node) := by
  by_cases heading : ∃ size, leaf.node.IsHeading size
  · obtain ⟨size, heading⟩ := heading
    rw [ofText_of_heading heading]
    exact .title leaf size text heading
  · have plain := not_exists.mp heading
    rw [ofText_of_plain plain]
    exact .text leaf text plain

/-- A leaf is one block. -/
theorem shows_ofLeaf (leaf : Spot) (shown : leaf.node.IsLeaf) :
    List.Forall₂ LeafGroup.Shows [.single leaf] (Content.ofLeaf leaf.inHeader leaf.node) := by
  unfold Content.ofLeaf
  split
  case h_1 box => exact absurd box shown.1
  case h_2 text => exact .cons (shows_text leaf text) .nil
  case h_3 image => exact .cons (.image leaf image) .nil
  case h_4 button => exact .cons (.button leaf button) .nil
  case h_5 separator => exact .cons (.separator leaf separator) .nil
  case h_6 spacer => exact absurd spacer shown.2.1
  case h_7 filler => exact absurd filler shown.2.2
  case h_8 notText notImage notButton notSeparator _ _ =>
    exact .cons (.other leaf (by simpa using ⟨notText, notImage, notButton, notSeparator⟩)) .nil

theorem ofLeaf_of_not_leaf {inHeader : Bool} {node : Json} (hidden : ¬ node.IsLeaf) :
    Content.ofLeaf inHeader node = [] := by
  unfold Content.ofLeaf
  split <;> simp_all [Json.IsLeaf]

theorem shows_leafAt (node : Json) :
    List.Forall₂ LeafGroup.Shows ((leafAt area node).map .single)
      (Content.ofLeaf (Spot.mk area [] node).inHeader node) := by
  by_cases shown : node.IsLeaf
  · rw [leafAt_of_isLeaf shown]
    exact shows_ofLeaf ⟨area, [], node⟩ shown
  · rw [leafAt_of_not_isLeaf shown, ofLeaf_of_not_leaf shown]
    exact .nil

theorem forall₂_flatMap {α β γ : Type} {related : β → γ → Prop} {f : α → List β} {g : α → List γ}
    {items : List α} (each : ∀ item ∈ items, List.Forall₂ related (f item) (g item)) :
    List.Forall₂ related (items.flatMap f) (items.flatMap g) := by
  have same : List.Forall₂ (fun first second => first = second ∧ first ∈ items) items items :=
    List.forall₂_same.mpr fun _ listed => ⟨rfl, listed⟩
  refine List.rel_flatMap same ?_
  rintro item _ ⟨rfl, listed⟩
  exact each item listed

theorem forall₂_under (i : Nat) {groups : List LeafGroup} {contents : List Content}
    (shown : List.Forall₂ LeafGroup.Shows groups contents) :
    List.Forall₂ LeafGroup.Shows (groups.map (.under i)) contents :=
  List.forall₂_map_left_iff.mpr (shown.imp fun _ _ one => one.under i)

theorem shows_groupsWithin (inHeader : Bool)
    (named : (Draft.sectionNames[area]? == some "header") = inHeader) (depth : Nat) (node : Json) :
    List.Forall₂ LeafGroup.Shows (groupsWithin area depth node)
      (Content.ofElement inHeader depth node) := by
  subst named
  induction depth generalizing node with
  | zero => exact shows_leafAt node
  | succ depth ih =>
      by_cases box : node.hasType "box" = true
      · rw [groupsWithin, if_pos box, Content.ofElement, if_pos box, Content.ofBox_eq]
        refine forall₂_flatMap fun part _ => ?_
        cases part with
        | alone i child => exact forall₂_under i (ih child)
        | line i bullet label pair => exact .cons (.line _ _) .nil
      · have other := Bool.of_not_eq_true box
        rw [groupsWithin_of_not_box _ other, Content.ofElement_of_not_box _ other]
        exact shows_leafAt node

end Within

/-- The groups of a bubble in the order in which they are read. -/
def groupsOf (bubble : Json) : List LeafGroup :=
  Draft.sectionNames.zipIdx.flatMap fun (name, area) =>
    ((bubble.field? name).map (groupsWithin area Content.maxBoxes)).getD []

theorem leaves_groupsOf (bubble : Json) :
    (groupsOf bubble).flatMap LeafGroup.leaves = leavesOf bubble := by
  rw [groupsOf, leavesOf, List.flatMap_assoc]
  refine List.flatMap_congr ?_
  rintro ⟨name, area⟩ _
  dsimp only
  cases bubble.field? name with
  | none => rfl
  | some root => exact leaves_groupsWithin Content.maxBoxes root

theorem line_mem_groupsOf {bubble : Json} {bullet label : Spot} :
    .line bullet label ∈ groupsOf bubble ↔ SiblingPair bubble bullet label := by
  have within (name : String) (area : Nat) :
      .line bullet label ∈ ((bubble.field? name).map (groupsWithin area Content.maxBoxes)).getD [] ↔
        ∃ root, bubble.field? name = some root ∧
          PairWithin area Content.maxBoxes root bullet label := by
    cases bubble.field? name <;> simp [line_mem_groupsWithin]
  simp only [groupsOf, List.mem_flatMap, Prod.exists, List.mem_zipIdx_iff_getElem?, within]
  constructor
  · rintro ⟨name, area, named, root, found, trail, box, i, first, second, leads, isBox, short,
      paired, rfl, rfl⟩
    exact ⟨⟨area, trail, box⟩, i, first, second, ⟨name, root, named, found, leads⟩, isBox, short,
      paired, rfl, rfl⟩
  · rintro ⟨box, i, first, second, ⟨name, root, named, found, leads⟩, isBox, short, paired, rfl,
      rfl⟩
    exact ⟨name, box.area, named, root, found, box.trail, box.node, i, first, second, leads, isBox,
      short, paired, rfl, rfl⟩

theorem shows_groupsOf (bubble : Json) :
    List.Forall₂ LeafGroup.Shows (groupsOf bubble) (Draft.ofBubble bubble).contents := by
  have contents : (Draft.ofBubble bubble).contents =
      Draft.sectionNames.zipIdx.flatMap fun (name, _) => Content.ofSection bubble name := by
    rw [← List.flatMap_map Prod.fst, List.zipIdx_map_fst]
    rfl
  rw [groupsOf, contents]
  refine forall₂_flatMap ?_
  rintro ⟨name, area⟩ listed
  have named : Draft.sectionNames[area]? = some name := List.mem_zipIdx_iff_getElem?.mp listed
  unfold Content.ofSection
  dsimp only
  cases bubble.field? name with
  | none => exact .nil
  | some root =>
      exact shows_groupsWithin (name == "header") (by rw [named]; rfl) Content.maxBoxes root

end RichMessage
