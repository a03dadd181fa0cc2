import Mathlib.Data.List.Basic
import RichMessage.Document.Flattening

set_option autoImplicit false

namespace RichMessage

/-- An element and where it stands. -/
structure Spot where
  /-- The number of its section, from top to bottom. -/
  area : Nat
  /-- The numbers of the children on the way from the section inwards, one for each box around the
  element. -/
  trail : List Nat
  node : Json

namespace Json

/-- The element that a way inwards leads to; every step on it opens a box. -/
def descend? (node : Json) : List Nat → Option Json
  | [] => some node
  | i :: rest =>
    if node.hasType "box" then node.contents[i]?.bind fun child => child.descend? rest else none

/-- Whether an element is neither a box nor mere space. -/
def IsLeaf (node : Json) : Prop :=
  node.textField? "type" ≠ some "box" ∧ node.textField? "type" ≠ some "spacer" ∧
    node.textField? "type" ≠ some "filler"

instance (node : Json) : Decidable node.IsLeaf :=
  inferInstanceAs (Decidable (_ ∧ _ ∧ _))

theorem IsLeaf.not_box {node : Json} (leaf : node.IsLeaf) : node.hasType "box" = false := by
  simpa [hasType] using leaf.1

end Json

namespace Spot

/-- The same element seen from the box around it, of which it lies in the child with a number. -/
def under (i : Nat) (spot : Spot) : Spot :=
  { spot with trail := i :: spot.trail }

/-- Whether an element stands there in a bubble. -/
def In (bubble : Json) (spot : Spot) : Prop :=
  ∃ name root, Draft.sectionNames[spot.area]? = some name ∧ bubble.field? name = some root ∧
    root.descend? spot.trail = some spot.node

end Spot

section Within

variable {area : Nat}

def leafAt (area : Nat) (node : Json) : List Spot :=
  if node.IsLeaf then [⟨area, [], node⟩] else []

theorem leafAt_of_isLeaf {node : Json} (leaf : node.IsLeaf) :
    leafAt area node = [⟨area, [], node⟩] :=
  if_pos leaf

theorem leafAt_of_not_isLeaf {node : Json} (hidden : ¬ node.IsLeaf) : leafAt area node = [] :=
  if_neg hidden

/-- The leaves of an element in the order in which they are read, those in too many boxes left
out. -/
def leavesWithin (area : Nat) : Nat → Json → List Spot
  | 0, node => leafAt area node
  | depth + 1, node =>
    if node.hasType "box" then
      node.contents.zipIdx.flatMap fun (child, i) => (leavesWithin area depth child).map (.under i)
    else leafAt area node

theorem leavesWithin_of_not_box (depth : Nat) {node : Json} (other : node.hasType "box" = false) :
    leavesWithin area depth node = leafAt area node := by
  cases depth with
  | zero => rfl
  | succ depth => rw [leavesWithin, other, if_neg Bool.false_ne_true]

/-- No way leads on from an element that is not a box. -/
theorem descend?_of_not_box {node leaf : Json} {trail : List Nat}
    (other : node.hasType "box" = false) :
    node.descend? trail = some leaf ↔ trail = [] ∧ leaf = node := by
  cases trail with
  | nil => simp only [Json.descend?, Option.some.injEq, true_and, eq_comm]
  | cons i rest => simp [Json.descend?, other]

theorem descend?_of_box {node leaf : Json} {i : Nat} {rest : List Nat}
    (box : node.hasType "box" = true) :
    node.descend? (i :: rest) = some leaf ↔
      ∃ child, node.contents[i]? = some child ∧ child.descend? rest = some leaf := by
  simp only [Json.descend?, box, if_true, Option.bind_eq_some_iff]

end Within

/-- The leaves of a bubble in the order in which they are read. -/
def leavesOf (bubble : Json) : List Spot :=
  Draft.sectionNames.zipIdx.flatMap fun (name, area) =>
    ((bubble.field? name).map (leavesWithin area Content.maxBoxes)).getD []

end RichMessage
