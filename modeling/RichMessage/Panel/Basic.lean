import RichMessage.Block
import RichMessage.Ident.Basic

set_option autoImplicit false

namespace RichMessage

def defaultBackground : String := "#FFFFFF"

def defaultTheme : String := "#06C755"

/-- The color of every text on a header, so that it can be read on the theme. -/
def headerInk : String := "#FFFFFF"

structure Settings where
  background : String := defaultBackground
  theme : String := defaultTheme
  size : BubbleSize := default
  deriving Repr, DecidableEq

/-- Settings and blocks under an identifier. -/
structure Panel where
  id : String
  settings : Settings
  blocks : List Block
  deriving Repr, DecidableEq

/-- A panel without identifiers. -/
structure Draft where
  settings : Settings
  contents : List Content
  deriving Repr, DecidableEq

namespace Settings

def toJson (settings : Settings) : Json :=
  .obj [("backgroundColor", .str settings.background), ("themeColor", .str settings.theme),
    ("size", Keyword.toJson settings.size)]

def read? (strictness : Strictness) (w : Written) : Option Settings := do
  let fields ← w.record? ["backgroundColor", "themeColor", "size"]
  let background ← Written.required? fields "backgroundColor" Written.str?
  let theme ← Written.required? fields "themeColor" Written.str?
  let size ← Written.defaulted? fields "size" default (Keyword.read? strictness)
  return { background, theme, size }

end Settings

namespace Draft

/-- No blocks, and usual settings but for the theme. -/
def empty (theme : Option String) : Draft :=
  ⟨{ theme := theme.getD defaultTheme }, []⟩

variable {σ : Type} [IdSource σ]

/-- Draws an identifier for each content. -/
def numberContents : List Content → σ → List Block × σ
  | [], source => ([], source)
  | content :: rest, source =>
    let (id, source) := IdSource.draw source
    let (blocks, source) := numberContents rest source
    (⟨id, content⟩ :: blocks, source)

def number (draft : Draft) (source : σ) : Panel × σ :=
  let (id, source) := IdSource.draw source
  let (blocks, source) := numberContents draft.contents source
  (⟨id, draft.settings, blocks⟩, source)

/-- Draws the identifiers of several panels, one after the other. -/
def numberAll : List Draft → σ → List Panel × σ
  | [], source => ([], source)
  | draft :: rest, source =>
    let (panel, source) := draft.number source
    let (panels, source) := numberAll rest source
    (panel :: panels, source)

end Draft

namespace Panel

/-- The panel without its identifiers. -/
def draft (panel : Panel) : Draft :=
  ⟨panel.settings, panel.blocks.map Block.content⟩

def position? (panel : Panel) (id : String) : Option Nat :=
  panel.blocks.findIdx? fun block => block.id == id

def block? (panel : Panel) (id : String) : Option Block :=
  panel.blocks.find? fun block => block.id == id

def empty {σ : Type} [IdSource σ] (theme : Option String) (source : σ) : Panel × σ :=
  (Draft.empty theme).number source

/-- A copy of a panel in which every identifier is new. -/
def duplicate {σ : Type} [IdSource σ] (panel : Panel) (source : σ) : Panel × σ :=
  panel.draft.number source

def toJson (panel : Panel) : Json :=
  .obj [("id", .str panel.id), ("settings", panel.settings.toJson),
    ("blocks", .arr (panel.blocks.map Block.toJson))]

def read? (strictness : Strictness) (w : Written) : Option Panel := do
  let fields ← w.record? ["id", "settings", "blocks"]
  let id ← Written.required? fields "id" Written.str?
  let settings ← Written.required? fields "settings" (Settings.read? strictness)
  let blocks ← Written.required? fields "blocks" (Written.list? (Block.read? strictness))
  return { id, settings, blocks }

def listToJson (panels : List Panel) : Json :=
  .arr (panels.map Panel.toJson)

def readList? (w : Written) : Option (List Panel) :=
  w.list? (Panel.read? .strict)

end Panel

namespace Block

def create {σ : Type} [IdSource σ] (content : Content) (source : σ) : Block × σ :=
  let (id, source) := IdSource.draw source
  (⟨id, content⟩, source)

/-- A copy of a block under a new identifier. -/
def duplicate {σ : Type} [IdSource σ] (block : Block) (source : σ) : Block × σ :=
  create block.content source

end Block

end RichMessage
