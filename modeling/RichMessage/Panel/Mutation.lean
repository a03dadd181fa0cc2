import RichMessage.Panel.Basic
import RichMessage.Rearrange

set_option autoImplicit false

namespace RichMessage

inductive Mutation where
  /-- Adds a block with its initial content, at the end unless told otherwise. -/
  | addBlock (panel : String) (kind : BlockKind) (index : Option UInt64)
  /-- Gives a block another content of the same kind. -/
  | updateBlock (panel block : String) (content : Content)
  | removeBlock (panel block : String)
  /-- Adds a copy of a block right behind it. -/
  | duplicateBlock (panel block : String)
  | moveBlock (panel : String) (source target : UInt64)
  /-- Adds a panel without blocks, at the end unless told otherwise. -/
  | addPanel (index : Option UInt64) (theme : Option String)
  | updateSettings (panel : String) (settings : Settings)
  /-- Adds a copy of a panel right behind it. -/
  | duplicatePanel (panel : String)
  | removePanel (panel : String)
  | movePanel (source target : UInt64)
  deriving Repr, DecidableEq

inductive Refusal where
  | panelNotFound (id : String)
  | blockNotFound (id : String)
  | indexOutOfRange (index length : Nat)
  | kindMismatch (block : String) (expected found : BlockKind)
  | lastPanel
  deriving Repr, DecidableEq

def Refusal.message : Refusal → String
  | .panelNotFound id => "Panel not found: " ++ id
  | .blockNotFound id => "Block not found: " ++ id
  | .indexOutOfRange index length =>
    "Index " ++ index.repr ++ " out of range for length " ++ length.repr
  | .kindMismatch block expected found =>
    "Cannot change block " ++ block ++ " from " ++ expected.label ++ " to " ++ found.label
  | .lastPanel => "Cannot remove the last panel"

structure Mutated (σ : Type) where
  panels : List Panel
  source : σ
  /-- The identifier of the panel or block that has been added. -/
  created : Option String := none

namespace Mutation

/-- The panel with an identifier, which the first one of several has. -/
def locatePanel (panels : List Panel) (id : String) : Except Refusal (Located Panel) :=
  match Located.find? (fun panel : Panel => panel.id == id) panels with
  | some found => .ok found
  | none => .error (.panelNotFound id)

def locateBlock (panel : Panel) (id : String) : Except Refusal (Located Block) :=
  match Located.find? (fun block : Block => block.id == id) panel.blocks with
  | some found => .ok found
  | none => .error (.blockNotFound id)

/-- Refuses a position that is not in a list of some length. -/
def checkIndex (index : UInt64) (length : Nat) : Except Refusal Unit :=
  if index.toNat < length then .ok () else .error (.indexOutOfRange index.toNat length)

/-- Refuses what cannot be done, before anything is done. -/
def validate (mutation : Mutation) (panels : List Panel) : Except Refusal Unit :=
  match mutation with
  | .addBlock panel _ _ => do
    let _ ← locatePanel panels panel
  | .updateBlock panel block content => do
    let panel ← locatePanel panels panel
    let found ← locateBlock panel.item block
    if found.item.content.kind = content.kind then .ok ()
    else .error (.kindMismatch block found.item.content.kind content.kind)
  | .removeBlock panel block | .duplicateBlock panel block => do
    let panel ← locatePanel panels panel
    let _ ← locateBlock panel.item block
  | .moveBlock panel source target => do
    let panel ← locatePanel panels panel
    checkIndex source panel.item.blocks.length
    checkIndex target panel.item.blocks.length
  | .addPanel _ _ => .ok ()
  | .updateSettings panel _ | .duplicatePanel panel => do
    let _ ← locatePanel panels panel
  | .removePanel panel => do
    let _ ← locatePanel panels panel
    if panels.length ≤ 1 then .error .lastPanel else .ok ()
  | .movePanel source target => do
    checkIndex source panels.length
    checkIndex target panels.length

variable {σ : Type} [IdSource σ]

/-- Gives the panel that was found other blocks. -/
def withBlocks (found : Located Panel) (blocks : List Block) : List Panel :=
  found.replace [{ found.item with blocks }]

/-- Does a mutation that has been checked. -/
def perform (mutation : Mutation) (panels : List Panel) (source : σ) :
    Except Refusal (Mutated σ) :=
  match mutation with
  | .addBlock panel kind index => do
    let found ← locatePanel panels panel
    let (block, source) := Block.create (.initial kind found.item.settings.theme) source
    let blocks := insertClamped found.item.blocks (index.map UInt64.toNat) block
    return { panels := withBlocks found blocks, source, created := some block.id }
  | .updateBlock panel block content => do
    let found ← locatePanel panels panel
    let place ← locateBlock found.item block
    return { panels := withBlocks found (place.replace [{ place.item with content }]), source }
  | .removeBlock panel block => do
    let found ← locatePanel panels panel
    let place ← locateBlock found.item block
    return { panels := withBlocks found (place.replace []), source }
  | .duplicateBlock panel block => do
    let found ← locatePanel panels panel
    let place ← locateBlock found.item block
    let (copy, source) := place.item.duplicate source
    let blocks := place.replace [place.item, copy]
    return { panels := withBlocks found blocks, source, created := some copy.id }
  | .moveBlock panel origin target => do
    let found ← locatePanel panels panel
    let blocks := moveItem found.item.blocks origin.toNat target.toNat
    return { panels := withBlocks found blocks, source }
  | .addPanel index theme => do
    let (panel, source) := Panel.empty theme source
    let panels := insertClamped panels (index.map UInt64.toNat) panel
    return { panels, source, created := some panel.id }
  | .updateSettings panel settings => do
    let found ← locatePanel panels panel
    return { panels := found.replace [{ found.item with settings }], source }
  | .duplicatePanel panel => do
    let found ← locatePanel panels panel
    let (copy, source) := found.item.duplicate source
    return { panels := found.replace [found.item, copy], source, created := some copy.id }
  | .removePanel panel => do
    let found ← locatePanel panels panel
    return { panels := found.replace [], source }
  | .movePanel origin target =>
    return { panels := moveItem panels origin.toNat target.toNat, source }

def run (mutation : Mutation) (panels : List Panel) (source : σ) :
    Except Refusal (Mutated σ) := do
  mutation.validate panels
  mutation.perform panels source

def description : Mutation → String
  | .addBlock _ kind _ => "Add " ++ kind.label ++ " block"
  | .updateBlock _ block _ => "Edit block " ++ block
  | .removeBlock _ block => "Remove block " ++ block
  | .duplicateBlock _ block => "Duplicate block " ++ block
  | .moveBlock _ source target =>
    "Move block " ++ source.toNat.repr ++ " → " ++ target.toNat.repr
  | .addPanel _ _ => "Add panel"
  | .updateSettings panel _ => "Edit settings of panel " ++ panel
  | .duplicatePanel panel => "Duplicate panel " ++ panel
  | .removePanel panel => "Remove panel " ++ panel
  | .movePanel source target => "Move panel " ++ source.toNat.repr ++ " → " ++ target.toNat.repr

/-- The tagged value of a mutation; what is absent is written as null. -/
def toJson : Mutation → Json
  | .addBlock panel kind index =>
    .obj [("type", .str "addBlock"), ("panelId", .str panel), ("blockType", Keyword.toJson kind),
      ("index", Json.orNull Json.ofWord index)]
  | .updateBlock panel block content =>
    .obj [("type", .str "updateBlock"), ("panelId", .str panel), ("blockId", .str block),
      ("props", content.toJson)]
  | .removeBlock panel block =>
    .obj [("type", .str "removeBlock"), ("panelId", .str panel), ("blockId", .str block)]
  | .duplicateBlock panel block =>
    .obj [("type", .str "duplicateBlock"), ("panelId", .str panel), ("blockId", .str block)]
  | .moveBlock panel source target =>
    .obj [("type", .str "moveBlock"), ("panelId", .str panel), ("from", Json.ofWord source),
      ("to", Json.ofWord target)]
  | .addPanel index theme =>
    .obj [("type", .str "addPanel"), ("index", Json.orNull Json.ofWord index),
      ("themeColor", Json.orNull .str theme)]
  | .updateSettings panel settings =>
    .obj [("type", .str "updatePanelSettings"), ("panelId", .str panel),
      ("settings", settings.toJson)]
  | .duplicatePanel panel => .obj [("type", .str "duplicatePanel"), ("panelId", .str panel)]
  | .removePanel panel => .obj [("type", .str "removePanel"), ("panelId", .str panel)]
  | .movePanel source target =>
    .obj [("type", .str "movePanel"), ("from", Json.ofWord source), ("to", Json.ofWord target)]

/-- The tags of the mutations, by position. -/
def tags : List String :=
  ["addBlock", "updateBlock", "removeBlock", "duplicateBlock", "moveBlock", "addPanel",
    "updatePanelSettings", "duplicatePanel", "removePanel", "movePanel"]

def readFields? (tag : String) (fields : Written) : Option Mutation :=
  match tag with
  | "addBlock" => do
    let fields ← fields.record? ["panelId", "blockType", "index"]
    let panel ← Written.required? fields "panelId" Written.str?
    let kind ← Written.required? fields "blockType" (Keyword.read? .lenient)
    let index ← Written.optional? fields "index" Written.word?
    return .addBlock panel kind index
  | "updateBlock" => do
    let fields ← fields.record? ["panelId", "blockId", "props"]
    let panel ← Written.required? fields "panelId" Written.str?
    let block ← Written.required? fields "blockId" Written.str?
    let content ← Written.required? fields "props" (Content.read? .lenient)
    return .updateBlock panel block content
  | "removeBlock" => do
    let fields ← fields.record? ["panelId", "blockId"]
    let panel ← Written.required? fields "panelId" Written.str?
    let block ← Written.required? fields "blockId" Written.str?
    return .removeBlock panel block
  | "duplicateBlock" => do
    let fields ← fields.record? ["panelId", "blockId"]
    let panel ← Written.required? fields "panelId" Written.str?
    let block ← Written.required? fields "blockId" Written.str?
    return .duplicateBlock panel block
  | "moveBlock" => do
    let fields ← fields.record? ["panelId", "from", "to"]
    let panel ← Written.required? fields "panelId" Written.str?
    let source ← Written.required? fields "from" Written.word?
    let target ← Written.required? fields "to" Written.word?
    return .moveBlock panel source target
  | "addPanel" => do
    let fields ← fields.record? ["index", "themeColor"]
    let index ← Written.optional? fields "index" Written.word?
    let theme ← Written.optional? fields "themeColor" Written.str?
    return .addPanel index theme
  | "updatePanelSettings" => do
    let fields ← fields.record? ["panelId", "settings"]
    let panel ← Written.required? fields "panelId" Written.str?
    let settings ← Written.required? fields "settings" (Settings.read? .lenient)
    return .updateSettings panel settings
  | "duplicatePanel" => do
    let fields ← fields.record? ["panelId"]
    let panel ← Written.required? fields "panelId" Written.str?
    return .duplicatePanel panel
  | "removePanel" => do
    let fields ← fields.record? ["panelId"]
    let panel ← Written.required? fields "panelId" Written.str?
    return .removePanel panel
  | "movePanel" => do
    let fields ← fields.record? ["from", "to"]
    let source ← Written.required? fields "from" Written.word?
    let target ← Written.required? fields "to" Written.word?
    return .movePanel source target
  | _ => none

def read? (strictness : Strictness) (w : Written) : Option Mutation :=
  (w.tagged? strictness tags).bind fun (tag, fields) => readFields? tag fields

end Mutation

end RichMessage
