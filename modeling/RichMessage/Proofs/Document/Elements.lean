import RichMessage.Document.Assembly
import RichMessage.Document.Flattening
import RichMessage.Proofs.Json.Members
import RichMessage.Proofs.Text.Bullet

set_option autoImplicit false

namespace RichMessage

open Json

/-- The element as a tree for reading. -/
def Element.toNode (element : Element) : Json :=
  element.toJson.canonical

theorem Element.listToJson_eq_map (elements : List Element) :
    Element.listToJson elements = elements.map Element.toJson := by
  induction elements with
  | nil => rfl
  | cons element rest ih => rw [Element.listToJson, ih, List.map_cons]

/-- What a node says that stands for a run of text. -/
structure ShowsText (node : Json) (element : TextElement) : Prop where
  type : node.textField? "type" = some "text"
  text : node.textField? "text" = some element.text
  size : node.keywordField? "size" = element.size
  weight : node.textField? "weight" = if element.bold then some "bold" else none
  color : node.textField? "color" = element.color
  wrap : (node.field? "wrap").bind bool? = if element.wrap then some true else none

/-- What a node says that stands for a box; its look is read apart. -/
structure ShowsBox (node : Json) (layout : BoxLayout) (items : List Json) : Prop where
  type : node.textField? "type" = some "box"
  layout : node.keywordField? "layout" = some layout
  contents : node.contents = items

theorem showsText_toNode (element : TextElement) :
    ShowsText (Element.text element).toNode element := by
  constructor <;>
    simp only [Element.toNode, Element.toJson, TextElement.toJson, ite_member, textField?,
      keywordField?, field?_canonical_obj, List.reverse_append, reverse_optionalMember] <;>
    simp
  case size => cases element.size <;> simp
  case weight => split <;> rfl
  case color => cases element.color <;> simp
  case wrap => split <;> simp

theorem showsBox_toNode (layout : BoxLayout) (contents : List Element) (look : BoxLook) :
    ShowsBox (Element.box layout contents look).toNode layout (contents.map Element.toNode) := by
  constructor <;>
    simp [Element.toNode, Element.toJson, BoxLook.members, textField?, keywordField?,
      Json.contents, Json.items, Element.listToJson_eq_map]

theorem background_toNode (layout : BoxLayout) (contents : List Element) (look : BoxLook) :
    (Element.box layout contents look).toNode.textField? "backgroundColor" = look.background := by
  obtain ⟨spacing, padding, background⟩ := look
  cases background <;>
    simp [Element.toNode, Element.toJson, BoxLook.members, textField?]

/-- What a node says that stands for a bubble. -/
structure ShowsBubble (node : Json) (bubble : Bubble) : Prop where
  type : node.textField? "type" = some "bubble"
  size : node.keywordField? "size" = some bubble.size
  header : node.field? "header" = bubble.header.map fun box => box.toElement.toNode
  hero : node.field? "hero" = none
  body : node.field? "body" = bubble.body.map fun box => box.toElement.toNode
  footer : node.field? "footer" = bubble.footer.map fun box => box.toElement.toNode
  styles : node.field? "styles" = none

theorem showsBubble_toNode (bubble : Bubble) : ShowsBubble bubble.toJson.canonical bubble := by
  constructor <;> simp [Bubble.toJson, textField?, keywordField?, Function.comp_def, Element.toNode]

theorem Action.ofNode?_toNode (action : Action) :
    Action.ofNode? action.toDocumentJson.canonical = some action := by
  cases action with
  | uri address label => cases label <;> simp [ofNode?, toDocumentJson, textField?]
  | message text label => cases label <;> simp [ofNode?, toDocumentJson, textField?]

theorem Action.label_toNode (action : Action) :
    (action.toDocumentJson.canonical.field? "label").bind str? = action.label := by
  cases action with
  | uri address label => cases label <;> simp [toDocumentJson, Action.label]
  | message text label => cases label <;> simp [toDocumentJson, Action.label]

namespace Content

/-- What a run of text is read as: a heading is bold and large. -/
def ofTextElement (inHeader : Bool) (element : TextElement) : Content :=
  let color := if inHeader then none else element.color
  let plain : Content :=
    .text { text := element.text, size := element.size, color, wrap := element.wrap }
  match element.size with
  | some size =>
    if element.bold && size.isLarge then .title { text := element.text, size, color } else plain
  | none => plain

variable {inHeader : Bool} {node : Json}

theorem shownText_of_showsText {element : TextElement} (shown : ShowsText node element) :
    node.shownText = element.text := by
  rw [shownText, shown.text]

theorem ofText_of_showsText {element : TextElement} (shown : ShowsText node element) :
    ofText inHeader node = ofTextElement inHeader element := by
  simp only [ofText, ofTextElement, shown.size, shown.weight, shownText_of_showsText shown,
    colorOfNode, shown.color, wrapOfNode, shown.wrap]
  cases element with
  | mk text size bold color wrap flex => cases size <;> cases bold <;> cases wrap <;> rfl

theorem ofLeaf_of_showsText {element : TextElement} (shown : ShowsText node element) :
    ofLeaf inHeader node = [ofTextElement inHeader element] := by
  simp only [ofLeaf, shown.type, ofText_of_showsText shown]

theorem ofElement_of_not_box (depth : Nat) (other : node.hasType "box" = false) :
    ofElement inHeader depth node = ofLeaf inHeader node := by
  cases depth with
  | zero => rfl
  | succ depth => rw [ofElement, other, if_neg (by decide)]

theorem ofElement_of_showsText {element : TextElement} (shown : ShowsText node element)
    (depth : Nat) : ofElement inHeader depth node = [ofTextElement inHeader element] := by
  rw [ofElement_of_not_box depth (by simp [hasType, shown.type]), ofLeaf_of_showsText shown]

theorem ofElement_of_showsBox {layout : BoxLayout} {items : List Json}
    (shown : ShowsBox node layout items) (depth : Nat) :
    ofElement inHeader (depth + 1) node = ofBox inHeader (ofElement inHeader depth) node := by
  rw [ofElement, if_pos (by simp [hasType, shown.type])]

/-- A row is either one bulleted line or its parts one after the other. -/
theorem ofElement_of_row {layout : BoxLayout} {items : List Json}
    (shown : ShowsBox node layout items) (inline : layout ≠ .vertical) (depth : Nat) :
    ofElement inHeader (depth + 1) node =
      match ofRow? inHeader items with
      | some line => [line]
      | none => items.flatMap (ofElement inHeader depth) := by
  rw [ofElement_of_showsBox shown depth, ofBox, shown.layout, shown.contents]
  cases layout with
  | vertical => exact absurd rfl inline
  | horizontal => rfl
  | baseline => rfl

theorem ofElement_of_column {items : List Json} (shown : ShowsBox node .vertical items)
    (depth : Nat) :
    ofElement inHeader (depth + 1) node =
      ofColumn inHeader (ofElement inHeader depth) items := by
  rw [ofElement_of_showsBox shown depth, ofBox, shown.layout, shown.contents]

theorem ofPair?_of_showsText {first second : Json} {bullet label : TextElement}
    (left : ShowsText first bullet) (right : ShowsText second label)
    (glyph : Bullet.isBullet bullet.text = true) (words : Bullet.isLabel label.text = true) :
    ofPair? inHeader first second =
      some (.text
        { text := Bullet.join bullet.text label.text
          size := label.size
          color := if inHeader then none else label.color
          wrap := label.wrap }) := by
  simp only [ofPair?, hasType, left.type, right.type, shownText_of_showsText left,
    shownText_of_showsText right, glyph, words, right.size, colorOfNode, right.color, wrapOfNode,
    right.wrap]
  cases label.wrap <;> rfl

end Content

end RichMessage
