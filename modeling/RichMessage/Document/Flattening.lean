import RichMessage.Panel.Basic
import RichMessage.Text.Bullet

set_option autoImplicit false

/- Any value can be flattened into drafts, one for each bubble in it. The sections are walked from
top to bottom and every element becomes one block; boxes disappear, except that a bullet and the
label beside it become one text. Nothing fails on the way: what is not understood becomes a text,
and a field that does not fit has its usual value. -/
namespace RichMessage

namespace Json

def keywordField? {α : Type} [Keyword α] (node : Json) (name : String) : Option α :=
  (node.textField? name).bind Keyword.parse?

def hasType (node : Json) (type : String) : Bool :=
  node.textField? "type" == some type

def contents (node : Json) : List Json :=
  ((node.field? "contents").map items).getD []

/-- The text of a node, or else the texts of its spans one after the other. -/
def shownText (node : Json) : String :=
  match node.textField? "text" with
  | some text => text
  | none => String.join (node.contents.filterMap fun span => span.textField? "text")

end Json

namespace Action

/-- The action of a node; a postback sends the text that it shows, or else its data. -/
def ofNode? (node : Json) : Option Action :=
  let label := node.textField? "label"
  match node.textField? "type" with
  | some "uri" => some (.uri ((node.textField? "uri").getD "") label)
  | some "message" => some (.message ((node.textField? "text").getD "") label)
  | some "postback" =>
    some (.message (((node.textField? "displayText").or (node.textField? "data")).getD "") label)
  | _ => none

end Action

namespace Content

/-- The color of a text. Texts of the header are recolored when a document is assembled, so the
color that they have is nobody's choice. -/
def colorOfNode (inHeader : Bool) (node : Json) : Option String :=
  if inHeader then none else node.textField? "color"

def wrapOfNode (node : Json) : Bool :=
  ((node.field? "wrap").bind Json.bool?).getD false

/-- The content of a text element: a title if it is bold and large. -/
def ofText (inHeader : Bool) (node : Json) : Content :=
  let text := node.shownText
  let color := colorOfNode inHeader node
  let plain (size : Option FontSize) : Content :=
    .text { text, size, color, wrap := wrapOfNode node }
  match (node.keywordField? "size" : Option FontSize) with
  | some size =>
    if node.textField? "weight" == some "bold" && size.isLarge then .title { text, size, color }
    else plain (some size)
  | none => plain none

def ofImage (node : Json) : Content :=
  .image
    { url := (node.textField? "url").getD ""
      ratio := (node.keywordField? "aspectRatio").getD default
      action := (node.field? "action").bind Action.ofNode? }

def ofButton (node : Json) : Content :=
  let action := node.field? "action"
  .button
    { label := (action.bind fun a => a.textField? "label").getD ""
      style := (node.keywordField? "style").getD default
      color := node.textField? "color"
      action := ((action.bind Action.ofNode?).map Action.unlabelled).getD default }

/-- The contents of an element that is not a box, at most one. A box gives none here. -/
def ofLeaf (inHeader : Bool) (node : Json) : List Content :=
  match node.textField? "type" with
  | some "box" => []
  | some "text" => [ofText inHeader node]
  | some "image" => [ofImage node]
  | some "button" => [ofButton node]
  | some "separator" => [.separator]
  | some "spacer" => []
  | some "filler" => []
  | _ => [plainText ((node.textField? "text").getD "")]

/-- The bulleted line that two elements beside each other make up. -/
def ofPair? (inHeader : Bool) (first second : Json) : Option Content :=
  if first.hasType "text" && second.hasType "text" && Bullet.isBullet first.shownText &&
      Bullet.isLabel second.shownText then
    some (.text
      { text := Bullet.join first.shownText second.shownText
        size := second.keywordField? "size"
        color := colorOfNode inHeader second
        wrap := wrapOfNode second })
  else none

/-- The contents of elements below each other: from the top on, two that make up a bulleted line are
taken together and every other one goes to `inner`. -/
def ofColumn (inHeader : Bool) (inner : Json → List Content) : List Json → List Content
  | [] => []
  | [last] => inner last
  | first :: second :: rest =>
    match ofPair? inHeader first second with
    | some line => line :: ofColumn inHeader inner rest
    | none => inner first ++ ofColumn inHeader inner (second :: rest)

/-- The bulleted line of a row that has nothing else. -/
def ofRow? (inHeader : Bool) : List Json → Option Content
  | [first, second] => ofPair? inHeader first second
  | _ => none

/-- The contents of a box, its parts read by `inner`. A box without a known layout is neither a row
nor a column, so nothing in it is taken together. -/
def ofBox (inHeader : Bool) (inner : Json → List Content) (node : Json) : List Content :=
  match (node.keywordField? "layout" : Option BoxLayout) with
  | some .vertical => ofColumn inHeader inner node.contents
  | some _ =>
    match ofRow? inHeader node.contents with
    | some line => [line]
    | none => node.contents.flatMap inner
  | none => node.contents.flatMap inner

/-- The most boxes around an element that is not dropped. -/
def maxBoxes : Nat := 32

/-- The contents of an element inside of which so many boxes may still be opened. -/
def ofElement (inHeader : Bool) : Nat → Json → List Content
  | 0, node => ofLeaf inHeader node
  | depth + 1, node =>
    if node.hasType "box" then ofBox inHeader (ofElement inHeader depth) node
    else ofLeaf inHeader node

def ofSection (bubble : Json) (name : String) : List Content :=
  ((bubble.field? name).map (ofElement (name == "header") maxBoxes)).getD []

end Content

namespace Draft

def sectionNames : List String := ["header", "hero", "body", "footer"]

/-- The background of a section, given by the section or else by the styles of the bubble. -/
def sectionBackground? (bubble : Json) (name : String) : Option String :=
  ((bubble.field? name).bind fun node => node.textField? "backgroundColor").or
    (((bubble.field? "styles").bind fun styles => styles.field? name).bind fun style =>
      style.textField? "backgroundColor")

/-- The color of the first button that has one. -/
def buttonColor? (contents : List Content) : Option String :=
  contents.findSome? fun content =>
    match content with
    | .button block => block.color
    | _ => none

/-- The settings of a bubble with some contents. The theme is the fill of the header, or else that
of a button. -/
def settingsOfBubble (bubble : Json) (contents : List Content) : Settings :=
  { background := (sectionBackground? bubble "body").getD defaultBackground
    theme := ((sectionBackground? bubble "header").or (buttonColor? contents)).getD defaultTheme
    size := (bubble.keywordField? "size").getD default }

def ofBubble (bubble : Json) : Draft :=
  let contents := sectionNames.flatMap (Content.ofSection bubble)
  ⟨settingsOfBubble bubble contents, contents⟩

/-- The document inside the envelope in which a message is sent, if there is one. -/
def unwrap (node : Json) : Json :=
  if node.hasType "flex" then (node.field? "contents").getD node else node

/-- The drafts of a document: of every object in a carousel, or of a single bubble. -/
def ofNode (node : Json) : List Draft :=
  let root := unwrap node
  if root.hasType "carousel" then (root.contents.filter Json.isObject).map ofBubble
  else if root.isObject then [ofBubble root]
  else []

end Draft

namespace Panel

/-- The panels of a document, their identifiers drawn in reading order. -/
def ofNode {σ : Type} [IdSource σ] (node : Json) (source : σ) : List Panel × σ :=
  Draft.numberAll (Draft.ofNode node) source

end Panel

end RichMessage
