import RichMessage.Document.Basic
import RichMessage.Panel.Basic
import RichMessage.Panel.Sections
import RichMessage.Text.Bullet

set_option autoImplicit false

namespace RichMessage

namespace Content

/-- The two texts of a bulleted line beside each other: the bullet keeps its width, the label takes
the rest and carries the wrapping. -/
def bulletLine (bullet label : String) (block : TextBlock) (color : Option String) : Element :=
  .box .horizontal
    [.text { text := bullet, size := block.size, color, flex := some 0 },
      .text { text := label, size := block.size, color, wrap := block.wrap, flex := some 1 }]
    { spacing := some "sm" }

/-- The element of a content. Texts of the header have the header's color, whatever their own is. -/
def element (inHeader : Bool) : Content → Element
  | .title block =>
    let color := if inHeader then some headerInk else block.color
    .text { text := block.text, size := some block.size, bold := true, color, wrap := true }
  | .text block =>
    let color := if inHeader then some headerInk else block.color
    match Bullet.split block.text with
    | some (bullet, label) => bulletLine bullet label block color
    | none => .text { text := block.text, size := block.size, color, wrap := block.wrap }
  | .image block => .image block.url block.ratio block.action
  | .button block => .button (block.action.withLabel block.label) block.style block.color
  | .separator => .separator

/-- Whether a content is nothing but a bullet. -/
def isBareBullet : Content → Bool
  | .title block => Bullet.isBullet block.text
  | .text block => Bullet.isBullet block.text
  | _ => false

/-- The part of a section that shows a content. A bare bullet sits in a box of its own, so that it
never looks like the bullet of the text that follows it. -/
def part (inHeader : Bool) (content : Content) : Element :=
  let shown := content.element inHeader
  if content.isBareBullet then .box .horizontal [shown] {} else shown

end Content

namespace Draft

def sectionBox? (inHeader : Bool) (look : BoxLook) (contents : List Content) : Option Box :=
  if contents.isEmpty then none
  else some ⟨.vertical, contents.map (Content.part inHeader), look⟩

/-- The background that a body is given; white is what it has anyway. -/
def bodyBackground (settings : Settings) : Option String :=
  let lower (color : String) : List Char := color.toList.map Char.toLower
  if lower settings.background = lower defaultBackground then none else some settings.background

def toBubble (draft : Draft) : Bubble :=
  let sections := Sections.route Content.kind draft.contents
  { size := draft.settings.size
    header := sectionBox? true
      { padding := some "20px", background := some draft.settings.theme } sections.header
    body := sectionBox? false
      { spacing := some "md", background := bodyBackground draft.settings } sections.body
    footer := sectionBox? false { spacing := some "sm" } sections.footer }

end Draft

namespace Document

def ofDrafts : List Draft → Document
  | [] => .bubble (Draft.empty none).toBubble
  | [draft] => .bubble draft.toBubble
  | drafts => .carousel (drafts.map Draft.toBubble)

/-- The document of some panels; their identifiers play no part in it. -/
def ofPanels (panels : List Panel) : Document :=
  ofDrafts (panels.map Panel.draft)

end Document

namespace Panel

def sections (panel : Panel) : Sections Block :=
  Sections.route (fun block => block.content.kind) panel.blocks

end Panel

end RichMessage
