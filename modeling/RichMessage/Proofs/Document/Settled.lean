import RichMessage.Proofs.Document.RoundTrip

set_option autoImplicit false

namespace RichMessage

namespace Content

@[simp] theorem kind_uncolored (content : Content) : content.uncolored.kind = content.kind := by
  cases content <;> rfl

/-- Being written to a document makes no button and removes none. -/
theorem kind_settled_eq_button_iff (content : Content) :
    content.settled.kind = .button ↔ content.kind = .button := by
  cases content with
  | title block => by_cases large : block.size.isLarge <;> simp [settled, kind, large]
  | text | image | button | separator => rfl

theorem kind_readBack_eq_button_iff (inHeader : Bool) (content : Content) :
    (content.readBack inHeader).kind = .button ↔ content.kind = .button := by
  cases inHeader
  · exact kind_settled_eq_button_iff content
  · simpa [readBack] using kind_settled_eq_button_iff content

/-- In the header the color of a text is forced, so it does not matter whether it is left open. -/
theorem part_uncolored (content : Content) : content.uncolored.part true = content.part true := by
  cases content <;> rfl

variable {inHeader : Bool} {node : Json} {content : Content}

theorem settled_ofText (inHeader : Bool) (node : Json) :
    (ofText inHeader node).settled = ofText inHeader node := by
  unfold ofText
  split
  · rename_i size _
    by_cases heading : node.textField? "weight" == some "bold" && size.isLarge
    · have large : size.isLarge = true := (Bool.and_eq_true_iff.mp heading).2
      simp only [if_pos heading, settled, if_pos large]
    · simp only [if_neg heading, settled]
  · rfl

theorem settled_ofButton (node : Json) : (ofButton node).settled = ofButton node := by
  simp only [ofButton, settled]
  cases (node.field? "action").bind Action.ofNode? with
  | none => rfl
  | some action => simp [Action.unlabelled]

theorem settled_of_mem_ofLeaf (member : content ∈ ofLeaf inHeader node) :
    content.settled = content := by
  unfold ofLeaf at member
  split at member <;> simp only [List.mem_singleton, List.not_mem_nil] at member
  · exact member ▸ settled_ofText inHeader node
  · exact member ▸ rfl
  · exact member ▸ settled_ofButton node
  · exact member ▸ rfl
  · exact member ▸ rfl

theorem settled_of_ofPair?_eq_some {first second : Json}
    (line : ofPair? inHeader first second = some content) : content.settled = content := by
  unfold ofPair? at line
  split at line
  · cases line
    rfl
  · cases line

section Inner

variable {inner : Json → List Content}
  (settledInner : ∀ node, ∀ content ∈ inner node, content.settled = content)

include settledInner

theorem settled_of_mem_ofColumn {nodes : List Json}
    (member : content ∈ ofColumn inHeader inner nodes) : content.settled = content := by
  fun_induction ofColumn inHeader inner nodes with
  | case1 => cases member
  | case2 last => exact settledInner last content member
  | case3 first second rest line found ih =>
      rcases List.mem_cons.mp member with rfl | later
      · exact settled_of_ofPair?_eq_some found
      · exact ih later
  | case4 first second rest _ ih =>
      rcases List.mem_append.mp member with here | later
      · exact settledInner first content here
      · exact ih later

theorem settled_of_mem_flatMap {nodes : List Json} (member : content ∈ nodes.flatMap inner) :
    content.settled = content := by
  obtain ⟨node, -, here⟩ := List.mem_flatMap.mp member
  exact settledInner node content here

theorem settled_of_mem_ofBox (member : content ∈ ofBox inHeader inner node) :
    content.settled = content := by
  unfold ofBox at member
  split at member
  · exact settled_of_mem_ofColumn settledInner member
  · split at member
    · rename_i line row
      rw [List.mem_singleton.mp member]
      unfold ofRow? at row
      split at row
      · exact settled_of_ofPair?_eq_some row
      · cases row
    · exact settled_of_mem_flatMap settledInner member
  · exact settled_of_mem_flatMap settledInner member

end Inner

/-- Every content of an element is settled, however deep it lies in boxes. -/
theorem settled_of_mem_ofElement (depth : Nat) (node : Json) :
    ∀ content ∈ ofElement inHeader depth node, content.settled = content := by
  -- on the number of boxes that may still be opened
  induction depth generalizing node with
  | zero => exact fun _ => settled_of_mem_ofLeaf
  | succ depth ih =>
      intro content member
      rw [ofElement] at member
      split at member
      · exact settled_of_mem_ofBox ih member
      · exact settled_of_mem_ofLeaf member

theorem settled_of_mem_ofSection {bubble : Json} {name : String}
    (member : content ∈ ofSection bubble name) : content.settled = content := by
  unfold ofSection at member
  cases found : bubble.field? name with
  | none => simp [found] at member
  | some node =>
      rw [found] at member
      exact settled_of_mem_ofElement maxBoxes node content member

end Content

namespace Draft

/-- Every content is one that a document can say in full. -/
def Settled (draft : Draft) : Prop :=
  ∀ content ∈ draft.contents, content.settled = content

theorem settled_ofBubble (bubble : Json) : (ofBubble bubble).Settled := by
  intro content member
  obtain ⟨name, -, here⟩ := List.mem_flatMap.mp member
  exact Content.settled_of_mem_ofSection here

/-- Whatever a document holds, its drafts have settled contents. -/
theorem settled_of_mem_ofNode {node : Json} {draft : Draft} (member : draft ∈ ofNode node) :
    draft.Settled := by
  unfold ofNode at member
  simp only at member
  split at member
  · obtain ⟨bubble, -, rfl⟩ := List.mem_map.mp member
    exact settled_ofBubble bubble
  · split at member
    · rw [List.mem_singleton.mp member]
      exact settled_ofBubble _
    · cases member

end Draft

end RichMessage
