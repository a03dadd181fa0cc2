import RichMessage.Document.Assembly
import RichMessage.Document.Flattening
import RichMessage.FileTree
import RichMessage.Json.Printer
import RichMessage.Json.Reader
import RichMessage.Panel.Mutation
import RichMessage.Path.Editor

set_option autoImplicit false

namespace RichMessage

structure SessionOptions where
  /-- How many changes each history keeps; zero keeps all of them. -/
  historyLimit : UInt64 := UInt64.ofNat History.defaultLimit
  /-- The theme of the panels that the session makes. -/
  theme : Option String := none
  deriving Repr, DecidableEq

namespace SessionOptions

def toJson (options : SessionOptions) : Json :=
  .obj [("historyLimit", Json.ofWord options.historyLimit),
    ("themeColor", Json.orNull .str options.theme)]

def read? (w : Written) : Option SessionOptions := do
  let fields ← w.record? ["historyLimit", "themeColor"]
  let historyLimit ← Written.defaulted? fields "historyLimit"
    (UInt64.ofNat History.defaultLimit) Written.word?
  let theme ← Written.optional? fields "themeColor" Written.str?
  return { historyLimit, theme }

end SessionOptions

inductive SessionError where
  | mutation (reason : Refusal)
  /-- A file does not hold a JSON value. -/
  | json
  | file (reason : FileError)
  | notInRawMode
  | inRawMode
  deriving Repr, DecidableEq

/-- What the user is told about a failure; `detail` says what is wrong with a JSON text. -/
def SessionError.message (detail : String) : SessionError → String
  | .mutation reason => "Mutation error: " ++ reason.message
  | .json => "JSON error: " ++ detail
  | .file reason => "IO error: " ++ reason.message
  | .notInRawMode => "Session is not in raw mode"
  | .inRawMode => "Block edits are locked while raw edits are pending"

/-- The state of a session. -/
structure Session (σ : Type) where
  panels : List Panel
  /-- Where new identifiers come from. -/
  source : σ
  history : History (List Panel)
  /-- The editor of the document in raw mode. -/
  raw : Option TreeEditor := none
  options : SessionOptions

namespace Session

variable {σ : Type} [IdSource σ]

/-- A session with one panel without blocks. -/
def create (options : SessionOptions) (source : σ) : Session σ :=
  let (panel, source) := Panel.empty options.theme source
  { panels := [panel], source, history := { limit := options.historyLimit.toNat }, options }

def isRaw (session : Session σ) : Bool :=
  session.raw.isSome

def canUndo (session : Session σ) : Bool :=
  !session.isRaw && session.history.canUndo

def canRedo (session : Session σ) : Bool :=
  !session.isRaw && session.history.canRedo

def panel? (session : Session σ) (id : String) : Option Panel :=
  session.panels.find? fun panel => panel.id == id

/-- The drafts of a document, or an empty one where there is no bubble in it. -/
def draftsOf (options : SessionOptions) (document : Json) : List Draft :=
  match Draft.ofNode document with
  | [] => [Draft.empty options.theme]
  | drafts => drafts

/-- Puts the panels of a document in the place of those of the session. -/
def withDocument (session : Session σ) (document : Json) : Session σ :=
  let (panels, source) := Draft.numberAll (draftsOf session.options document) session.source
  { session with panels, source }

/-- Starts anew with a document; all history is forgotten. -/
def load (session : Session σ) (document : Json) : Session σ :=
  let loaded := session.withDocument document
  { loaded with history := session.history.clear, raw := none }

def loadText (session : Session σ) (text : String) : Except SessionError (Session σ) :=
  match Json.parse? text with
  | some document => .ok (session.load document)
  | none => .error .json

def loadRead (session : Session σ) (read : Except FileError String) :
    Except SessionError (Session σ) :=
  match read with
  | .ok text => session.loadText text
  | .error reason => .error (.file reason)

def loadFile (session : Session σ) (files : FileTree) (path : String) :
    Except SessionError (Session σ) :=
  session.loadRead (files.readText path)

/-- Records what a mutation has left behind. One that leaves the panels equal is not a change. -/
def settle (session : Session σ) (mutation : Mutation) (done : Mutated σ) : Session σ :=
  if session.panels = done.panels then { session with source := done.source }
  else
    { session with
      panels := done.panels
      source := done.source
      history := session.history.record session.panels mutation.description }

/-- Does a mutation as one change; the result is the identifier of what has been added. -/
def mutate (session : Session σ) (mutation : Mutation) :
    Except SessionError (Option String × Session σ) :=
  if session.isRaw then .error .inRawMode
  else
    match mutation.run session.panels session.source with
    | .ok done => .ok (done.created, session.settle mutation done)
    | .error reason => .error (.mutation reason)

/-- Takes back the latest change of the panels, if there is one. -/
def undo (session : Session σ) : Except SessionError (Bool × Session σ) :=
  if session.isRaw then .error .inRawMode
  else
    match session.history.undo? session.panels with
    | some (panels, history) => .ok (true, { session with panels, history })
    | none => .ok (false, session)

/-- Makes again the change undone last, if there is one. -/
def redo (session : Session σ) : Except SessionError (Bool × Session σ) :=
  if session.isRaw then .error .inRawMode
  else
    match session.history.redo? session.panels with
    | some (panels, history) => .ok (true, { session with panels, history })
    | none => .ok (false, session)

def document (session : Session σ) : Document :=
  .ofPanels session.panels

/-- The editor of raw mode, or the one that raw mode would start with. -/
def rawEditor (session : Session σ) : TreeEditor :=
  session.raw.getD (.create session.document.toNode session.options.historyLimit.toNat)

/-- Goes into raw mode; in raw mode already, the pending edits stay. -/
def enterRaw (session : Session σ) : Session σ :=
  { session with raw := some session.rawEditor }

/-- Does a step in the editor of raw mode and tells whether it did anything. -/
def rawStep (session : Session σ) (step : EditorStep) : Except SessionError (Bool × Session σ) :=
  match session.raw with
  | some raw =>
    let (done, raw) := raw.perform step
    .ok (done, { session with raw := some raw })
  | none => .error .notInRawMode

/-- Turns the edited document into panels as one change and leaves raw mode. -/
def commitRaw (session : Session σ) : Except SessionError (Session σ) :=
  match session.raw with
  | some raw =>
    let committed := session.withDocument raw.root
    .ok { committed with
      history := session.history.record session.panels "Raw edit"
      raw := none }
  | none => .error .notInRawMode

/-- Leaves raw mode and drops its edits. -/
def discardRaw (session : Session σ) : Except SessionError (Session σ) :=
  if session.isRaw then .ok { session with raw := none } else .error .notInRawMode

/-- Back to one panel without blocks; all history is forgotten. -/
def reset (session : Session σ) : Session σ :=
  let (panel, source) := Panel.empty session.options.theme session.source
  { session with panels := [panel], source, history := session.history.clear, raw := none }

def savedText (session : Session σ) : String :=
  session.document.toJson.pretty

def save (session : Session σ) (files : FileTree) (path : String) :
    Except SessionError FileTree :=
  match files.writeText path session.savedText with
  | .ok files => .ok files
  | .error reason => .error (.file reason)

end Session

end RichMessage
