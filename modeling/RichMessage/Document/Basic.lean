import RichMessage.Action
import RichMessage.Vocabulary

set_option autoImplicit false

namespace RichMessage

structure TextElement where
  text : String
  size : Option FontSize := none
  bold : Bool := false
  color : Option String := none
  wrap : Bool := false
  flex : Option UInt64 := none
  deriving Repr, DecidableEq

/-- The distances and the fill of a box. -/
structure BoxLook where
  spacing : Option String := none
  padding : Option String := none
  background : Option String := none
  deriving Repr, DecidableEq

/-- A part of a bubble. Images always fill their width and cover their frame, and buttons are always
small. -/
inductive Element where
  | box (layout : BoxLayout) (contents : List Element) (look : BoxLook)
  | text (element : TextElement)
  | image (url : String) (ratio : AspectRatio) (action : Option Action)
  | button (action : Action) (style : ButtonStyle) (color : Option String)
  | separator

structure Box where
  layout : BoxLayout
  contents : List Element
  look : BoxLook := {}

def Box.toElement (box : Box) : Element :=
  .box box.layout box.contents box.look

structure Bubble where
  size : BubbleSize
  header : Option Box
  body : Option Box
  footer : Option Box

inductive Document where
  | bubble (page : Bubble)
  | carousel (pages : List Bubble)

namespace Action

/-- The value of an action inside a document, which has its label first. -/
def toDocumentJson : Action → Json
  | .uri address label =>
    .obj ([("type", .str "uri")] ++ Json.optionalMember "label" .str label ++
      [("uri", .str address)])
  | .message text label =>
    .obj ([("type", .str "message")] ++ Json.optionalMember "label" .str label ++
      [("text", .str text)])

end Action

namespace TextElement

def toJson (element : TextElement) : Json :=
  .obj ([("type", .str "text"), ("text", .str element.text)] ++
    Json.optionalMember "size" Keyword.toJson element.size ++
    (if element.bold then [("weight", .str "bold")] else []) ++
    Json.optionalMember "color" .str element.color ++
    (if element.wrap then [("wrap", .bool true)] else []) ++
    Json.optionalMember "flex" Json.ofWord element.flex)

end TextElement

namespace BoxLook

/-- The members of a box that give its look. -/
def members (look : BoxLook) : List (String × Json) :=
  Json.optionalMember "spacing" .str look.spacing ++
    Json.optionalMember "paddingAll" .str look.padding ++
    Json.optionalMember "backgroundColor" .str look.background

end BoxLook

namespace Element

mutual
def toJson : Element → Json
  | .box layout contents look =>
    .obj ([("type", .str "box"), ("layout", Keyword.toJson layout),
      ("contents", .arr (listToJson contents))] ++ look.members)
  | .text element => element.toJson
  | .image url ratio action =>
    .obj ([("type", .str "image"), ("url", .str url), ("size", .str "full"),
      ("aspectRatio", Keyword.toJson ratio), ("aspectMode", .str "cover")] ++
      Json.optionalMember "action" Action.toDocumentJson action)
  | .button action style color =>
    .obj ([("type", .str "button"), ("action", action.toDocumentJson),
      ("style", Keyword.toJson style)] ++ Json.optionalMember "color" .str color ++
      [("height", .str "sm")])
  | .separator => .obj [("type", .str "separator")]

def listToJson : List Element → List Json
  | [] => []
  | e :: es => e.toJson :: listToJson es
end

end Element

namespace Bubble

def toJson (bubble : Bubble) : Json :=
  let written (box : Box) : Json := box.toElement.toJson
  .obj ([("type", .str "bubble"), ("size", Keyword.toJson bubble.size)] ++
    Json.optionalMember "header" written bubble.header ++
    Json.optionalMember "body" written bubble.body ++
    Json.optionalMember "footer" written bubble.footer)

end Bubble

namespace Document

def bubbles : Document → List Bubble
  | .bubble page => [page]
  | .carousel pages => pages

/-- The value of a document, its members in the order in which they are written. -/
def toJson : Document → Json
  | .bubble page => page.toJson
  | .carousel pages =>
    .obj [("type", .str "carousel"), ("contents", .arr (pages.map Bubble.toJson))]

/-- The document as a tree for reading and editing at paths. -/
def toNode (document : Document) : Json :=
  document.toJson.canonical

end Document

end RichMessage
