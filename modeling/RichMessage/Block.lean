import RichMessage.Action
import RichMessage.Vocabulary

set_option autoImplicit false

namespace RichMessage

/-- A large bold heading. -/
structure TitleBlock where
  text : String
  size : FontSize := .xl
  color : Option String := none
  deriving Repr, DecidableEq

structure TextBlock where
  text : String
  size : Option FontSize := none
  color : Option String := none
  wrap : Bool := false
  deriving Repr, DecidableEq

structure ImageBlock where
  url : String
  ratio : AspectRatio := default
  action : Option Action := none
  deriving Repr, DecidableEq

/-- A button; its label belongs to the block and not to its action. -/
structure ButtonBlock where
  label : String
  style : ButtonStyle := default
  color : Option String := none
  action : Action := default
  deriving Repr, DecidableEq

inductive Content where
  | title (block : TitleBlock)
  | text (block : TextBlock)
  | image (block : ImageBlock)
  | button (block : ButtonBlock)
  | separator
  deriving Repr, DecidableEq

/-- A content with the identifier by which it is addressed. -/
structure Block where
  id : String
  content : Content
  deriving Repr, DecidableEq

namespace TitleBlock

def members (block : TitleBlock) : List (String × Json) :=
  [("text", .str block.text), ("size", Keyword.toJson block.size)] ++
    Json.optionalMember "color" .str block.color

def read? (strictness : Strictness) (w : Written) : Option TitleBlock := do
  let fields ← w.record? ["text", "size", "color"]
  let text ← Written.required? fields "text" Written.str?
  let size ← Written.defaulted? fields "size" .xl (Keyword.read? strictness)
  let color ← Written.optional? fields "color" Written.str?
  return { text, size, color }

end TitleBlock

namespace TextBlock

def members (block : TextBlock) : List (String × Json) :=
  [("text", .str block.text)] ++ Json.optionalMember "size" Keyword.toJson block.size ++
    Json.optionalMember "color" .str block.color ++ [("wrap", .bool block.wrap)]

def read? (strictness : Strictness) (w : Written) : Option TextBlock := do
  let fields ← w.record? ["text", "size", "color", "wrap"]
  let text ← Written.required? fields "text" Written.str?
  let size ← Written.optional? fields "size" (Keyword.read? strictness)
  let color ← Written.optional? fields "color" Written.str?
  let wrap ← Written.defaulted? fields "wrap" false Written.bool?
  return { text, size, color, wrap }

end TextBlock

namespace ImageBlock

def members (block : ImageBlock) : List (String × Json) :=
  [("url", .str block.url), ("aspectRatio", Keyword.toJson block.ratio)] ++
    Json.optionalMember "action" Action.toJson block.action

def read? (strictness : Strictness) (w : Written) : Option ImageBlock := do
  let fields ← w.record? ["url", "aspectRatio", "action"]
  let url ← Written.required? fields "url" Written.str?
  let ratio ← Written.defaulted? fields "aspectRatio" default (Keyword.read? strictness)
  let action ← Written.optional? fields "action" (Action.read? strictness)
  return { url, ratio, action }

end ImageBlock

namespace ButtonBlock

def members (block : ButtonBlock) : List (String × Json) :=
  [("label", .str block.label), ("style", Keyword.toJson block.style)] ++
    Json.optionalMember "color" .str block.color ++ [("action", block.action.toJson)]

def read? (strictness : Strictness) (w : Written) : Option ButtonBlock := do
  let fields ← w.record? ["label", "style", "color", "action"]
  let label ← Written.required? fields "label" Written.str?
  let style ← Written.defaulted? fields "style" default (Keyword.read? strictness)
  let color ← Written.optional? fields "color" Written.str?
  let action ← Written.defaulted? fields "action" default (Action.read? strictness)
  return { label, style, color, action }

end ButtonBlock

namespace Content

def kind : Content → BlockKind
  | .title _ => .title
  | .text _ => .text
  | .image _ => .image
  | .button _ => .button
  | .separator => .separator

/-- A text that wraps and leaves the rest to the reader's settings. -/
def plainText (text : String) : Content :=
  .text { text, wrap := true }

/-- A title of the usual size. -/
def plainTitle (text : String) : Content :=
  .title { text }

/-- What a block of a kind shows when it has just been added to a panel of some theme. -/
def initial (kind : BlockKind) (theme : String) : Content :=
  match kind with
  | .title => plainTitle "タイトル"
  | .text => plainText "テキスト"
  | .image => .image { url := "" }
  | .button => .button { label := "ボタン", color := some theme }
  | .separator => .separator

def members : Content → List (String × Json)
  | .title block => block.members
  | .text block => block.members
  | .image block => block.members
  | .button block => block.members
  | .separator => []

/-- The tagged value of a content; the tag is the spelling of its kind. -/
def toJson (content : Content) : Json :=
  .obj ((Written.tagName, Keyword.toJson content.kind) :: content.members)

/-- The tags of the contents, by position. -/
def tags : List String :=
  (Keyword.all : List BlockKind).map Keyword.spelling

def readFields? (kind : BlockKind) (fields : Written) : Option Content :=
  match kind with
  | .title => (TitleBlock.read? .lenient fields).map .title
  | .text => (TextBlock.read? .lenient fields).map .text
  | .image => (ImageBlock.read? .lenient fields).map .image
  | .button => (ButtonBlock.read? .lenient fields).map .button
  | .separator => if fields.isFieldless then some .separator else none

def read? (strictness : Strictness) (w : Written) : Option Content :=
  (w.tagged? strictness tags).bind fun (name, fields) =>
    (Keyword.parse? name).bind fun kind => readFields? kind fields

end Content

namespace Block

def toJson (block : Block) : Json :=
  .obj [("id", .str block.id), ("props", block.content.toJson)]

def read? (strictness : Strictness) (w : Written) : Option Block := do
  let fields ← w.record? ["id", "props"]
  let id ← Written.required? fields "id" Written.str?
  let content ← Written.required? fields "props" (Content.read? strictness)
  return { id, content }

end Block

end RichMessage
