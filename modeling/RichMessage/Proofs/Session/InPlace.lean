import RichMessage.Proofs.Panel.InPlace
import RichMessage.Proofs.Session.Histories

set_option autoImplicit false

/- A session is changed in place too: identifiers are drawn from its source, the editor of raw mode
is taken out of it, and panels are exchanged before anything is recorded. Where an operation fails,
the session stays as it has been left until then. These operations answer as those of
`RichMessage.Session.Operation` do, and one that fails leaves the session that it has found. -/
namespace RichMessage

open InPlace

namespace Session

variable {σ α : Type}

/-- Steps on a session, of which each may fail. -/
abbrev Work (σ α : Type) := EStateM SessionError (Session σ) α

/-- Refuses what would change the panels while raw mode has them locked. -/
def requireBlocks : Work σ PUnit := do
  if (← get).isRaw then throw .inRawMode

def takeEditor : Work σ (Option TreeEditor) :=
  modifyGet fun session => (session.raw, { session with raw := none })

def drawing (make : σ → α × σ) : Work σ α :=
  modifyGet fun session =>
    let (made, source) := make session.source
    (made, { session with source })

/-- Works on the panels and the source of the session. -/
def onDesk (work : EStateM Refusal (Desk σ) α) : Work σ α := fun session =>
  match work.run ⟨session.panels, session.source⟩ with
  | .ok value desk => .ok value { session with panels := desk.panels, source := desk.source }
  | .error reason desk =>
    .error (.mutation reason) { session with panels := desk.panels, source := desk.source }

variable [IdSource σ]

/-- The panels of a document, or one without blocks where there is no bubble in it. -/
def flattening (document : Json) : Work σ (List Panel) := do
  let panels ← drawing (Panel.ofNode document)
  if panels.isEmpty then
    let panel ← drawing (Panel.empty (← get).options.theme)
    return [panel]
  else return panels

def mutating (mutation : Mutation) : Work σ (Option String) := do
  requireBlocks
  let before := (← get).panels
  let created ← onDesk mutation.runInPlace
  if before = (← get).panels then return created
  else
    modify fun session =>
      { session with history := session.history.record before mutation.description }
    return created

/-- Goes to what the history has found, if anything. -/
def trading
    (find : History (List Panel) → List Panel → Option (List Panel × History (List Panel))) :
    Work σ Bool := do
  requireBlocks
  let session ← get
  match find session.history session.panels with
  | some (panels, history) =>
    set { session with panels, history }
    return true
  | none => return false

/-- Puts the panels of a document in the place of those of the session and forgets the rest. -/
def loading (document : Json) : Work σ PUnit := do
  let panels ← flattening document
  modify fun session => { session with panels, history := session.history.clear, raw := none }

def loadingRead (read : Except FileError String) : Work σ PUnit := do
  let text ← require (read.mapError .file)
  match Json.parse? text with
  | some document => loading document
  | none => throw .json

/-- Starts anew with a panel without blocks. -/
def resetting : Work σ PUnit := do
  let panel ← drawing (Panel.empty (← get).options.theme)
  modify fun session =>
    { session with panels := [panel], history := session.history.clear, raw := none }

def editing (step : EditorStep) : Work σ Bool := do
  match (← get).raw with
  | some editor =>
    let (done, editor) := editor.perform step
    modify fun session => { session with raw := some editor }
    return done
  | none => throw .notInRawMode

/-- Takes the editor out, flattens its document, and only then records the panels before. -/
def committing : Work σ PUnit := do
  match ← takeEditor with
  | some editor =>
    let panels ← flattening editor.root
    let before := (← get).panels
    modify fun session => { session with panels }
    modify fun session => { session with history := session.history.record before "Raw edit" }
  | none => throw .notInRawMode

def discarding : Work σ PUnit := do
  match ← takeEditor with
  | some _ => return ⟨⟩
  | none => throw .notInRawMode

def saving (files : FileTree) (path : String) : Work σ FileTree := do
  require ((← get).save files path)

end Session

open Session in
/-- An operation as the steps that it consists of. -/
def Operation.inPlace {σ : Type} [IdSource σ] : Operation → Work σ Reply
  | .mutate mutation => return .created (← mutating mutation)
  | .undo => return .done (← trading History.undo?)
  | .redo => return .done (← trading History.redo?)
  | .load document => do
    loading document
    return .nothing
  | .loadRead read => do
    loadingRead read
    return .nothing
  | .reset => do
    resetting
    return .nothing
  | .enterRaw => do
    modify Session.enterRaw
    return .nothing
  | .raw step => return .done (← editing step)
  | .commitRaw => do
    committing
    return .nothing
  | .discardRaw => do
    discarding
    return .nothing

namespace Session

variable {σ α : Type}

/-- What is left of a session: the state after an operation, or the state that it has found. -/
def leave (session : Session σ) : Except SessionError (α × Session σ) →
    EStateM.Result SessionError (Session σ) α
  | .ok (answer, next) => .ok answer next
  | .error reason => .error reason session

theorem run_requireBlocks (session : Session σ) :
    requireBlocks.run session =
      if session.isRaw then .error .inRawMode session else .ok ⟨⟩ session := by
  simp only [requireBlocks, EStateM.run_bind, EStateM.run_get]
  split <;> rfl

theorem run_trading (session : Session σ)
    (find : History (List Panel) → List Panel → Option (List Panel × History (List Panel))) :
    (trading find).run session =
      leave session (session.trade (find session.history session.panels)) := by
  simp only [trading, trade, EStateM.run_bind, EStateM.run_get, run_requireBlocks]
  by_cases raw : session.isRaw
  · rw [if_pos raw, if_pos raw]
    rfl
  · rw [if_neg raw, if_neg raw]
    dsimp only
    cases find session.history session.panels <;> rfl

theorem run_editing (session : Session σ) (step : EditorStep) :
    (editing step).run session = leave session (session.rawStep step) := by
  simp only [editing, rawStep, EStateM.run_bind, EStateM.run_get]
  cases session.raw <;> rfl

theorem run_discarding (session : Session σ) :
    discarding.run session = leave session (session.discardRaw.map fun next => (⟨⟩, next)) := by
  obtain ⟨panels, source, history, raw, options⟩ := session
  cases raw <;> rfl

theorem run_saving (session : Session σ) (files : FileTree) (path : String) :
    (saving files path).run session =
      leave session ((session.save files path).map fun files => (files, session)) := by
  simp only [saving, EStateM.run_bind, EStateM.run_get, run_require]
  cases session.save files path <;> rfl

theorem run_answering {work : Work σ α} {session : Session σ}
    {outcome : Except SessionError (α × Session σ)} (reply : α → Reply)
    (same : work.run session = leave session outcome) :
    (do return reply (← work)).run session =
      leave session (outcome.map fun (answer, next) => (reply answer, next)) := by
  rw [EStateM.run_bind, same]
  cases outcome <;> rfl

theorem run_silent {work : Work σ PUnit} {session : Session σ}
    {outcome : Except SessionError (Session σ)}
    (same : work.run session = leave session (outcome.map fun next => (⟨⟩, next))) :
    (do work; return Reply.nothing).run session =
      leave session (outcome.map fun next => (.nothing, next)) := by
  rw [EStateM.run_bind, same]
  cases outcome <;> rfl

variable [IdSource σ]

/-- Working on the panels themselves comes to what a mutation gives as a value. -/
theorem run_mutating (session : Session σ) (mutation : Mutation) :
    (mutating mutation).run session = leave session (session.mutate mutation) := by
  have worked := mutation.run_runInPlace session.panels session.source
  simp only [mutating, mutate, EStateM.run_bind, EStateM.run_get, run_requireBlocks]
  by_cases raw : session.isRaw
  · rw [if_pos raw, if_pos raw]
    rfl
  · rw [if_neg raw, if_neg raw]
    dsimp only [onDesk, EStateM.run] at worked ⊢
    rw [worked]
    cases mutation.run session.panels session.source with
    | error reason => rfl
    | ok done =>
        simp only [Mutation.leave, settle]
        by_cases same : session.panels = done.panels
        · rw [if_pos same, if_pos same, ← same]
          rfl
        · rw [if_neg same, if_neg same]
          rfl

/-- Drawing for the bubbles, and for an empty panel when there is none, draws for the drafts. -/
theorem run_flattening (session : Session σ) (document : Json) :
    (flattening document).run session =
      .ok (session.withDocument document).panels
        { session with source := (session.withDocument document).source } := by
  simp only [flattening, drawing, withDocument, draftsOf, Panel.ofNode, EStateM.run_bind,
    EStateM.run_modifyGet]
  cases Draft.ofNode document <;> rfl

theorem run_loading (session : Session σ) (document : Json) :
    (loading document).run session = .ok ⟨⟩ (session.load document) := by
  simp only [loading, EStateM.run_bind, run_flattening]
  rfl

theorem run_loadingRead (session : Session σ) (read : Except FileError String) :
    (loadingRead read).run session =
      leave session ((session.loadRead read).map fun next => (⟨⟩, next)) := by
  cases read with
  | error reason => rfl
  | ok text =>
      have given : (Except.ok text).mapError SessionError.file = .ok text := rfl
      simp only [loadingRead, loadRead, loadText, EStateM.run_bind, given, run_require]
      cases Json.parse? text with
      | none => rfl
      | some document => exact run_loading session document

theorem run_committing (session : Session σ) :
    committing.run session = leave session (session.commitRaw.map fun next => (⟨⟩, next)) := by
  obtain ⟨panels, source, history, raw, options⟩ := session
  cases raw with
  | none => rfl
  | some editor =>
      simp only [committing, takeEditor, commitRaw, EStateM.run_bind, EStateM.run_modifyGet,
        run_flattening, EStateM.run_get]
      rfl

/-- Done in place, an operation answers the same, and leaves the session alone where it fails. -/
theorem run_inPlace (session : Session σ) (operation : Operation) :
    operation.inPlace.run session = leave session (session.perform operation) := by
  cases operation with
  | mutate mutation => exact run_answering .created (run_mutating session mutation)
  | undo => exact run_answering .done (run_trading session History.undo?)
  | redo => exact run_answering .done (run_trading session History.redo?)
  | load document =>
      have loaded : (loading document).run session =
          leave session ((Except.ok (session.load document)).map fun next => (⟨⟩, next)) :=
        run_loading session document
      exact run_silent loaded
  | loadRead read => exact run_silent (run_loadingRead session read)
  | reset => rfl
  | enterRaw => rfl
  | raw step => exact run_answering .done (run_editing session step)
  | commitRaw => exact run_silent (run_committing session)
  | discardRaw => exact run_silent (run_discarding session)

end Session

end RichMessage
