import RichMessage.Session.Basic

set_option autoImplicit false

namespace RichMessage

inductive Operation where
  | mutate (mutation : Mutation)
  | undo
  | redo
  | load (document : Json)
  /-- Loads what has been read from a file. -/
  | loadRead (read : Except FileError String)
  | reset
  | enterRaw
  /-- A step in the editor of raw mode. -/
  | raw (step : EditorStep)
  | commitRaw
  | discardRaw

inductive Reply where
  | nothing
  /-- Whether anything was done. -/
  | done (changed : Bool)
  /-- The identifier of what has been added. -/
  | created (id : Option String)
  deriving Repr, DecidableEq

namespace Session

variable {σ : Type} [IdSource σ]

def perform (session : Session σ) : Operation → Except SessionError (Reply × Session σ)
  | .mutate mutation => (session.mutate mutation).map fun (id, next) => (.created id, next)
  | .undo => session.undo.map fun (changed, next) => (.done changed, next)
  | .redo => session.redo.map fun (changed, next) => (.done changed, next)
  | .load document => .ok (.nothing, session.load document)
  | .loadRead read => (session.loadRead read).map fun next => (.nothing, next)
  | .reset => .ok (.nothing, session.reset)
  | .enterRaw => .ok (.nothing, session.enterRaw)
  | .raw step => (session.rawStep step).map fun (changed, next) => (.done changed, next)
  | .commitRaw => session.commitRaw.map fun next => (.nothing, next)
  | .discardRaw => session.discardRaw.map fun next => (.nothing, next)

/-- The state after an operation, which is the one before it when the operation fails. -/
def after (session : Session σ) (operation : Operation) : Session σ :=
  match session.perform operation with
  | .ok (_, next) => next
  | .error _ => session

def run (session : Session σ) (operations : List Operation) : Session σ :=
  operations.foldl after session

@[simp] theorem run_nil (session : Session σ) : session.run [] = session := rfl

@[simp] theorem run_cons (session : Session σ) (operation : Operation)
    (rest : List Operation) :
    session.run (operation :: rest) = (session.after operation).run rest := rfl

@[simp] theorem run_append (session : Session σ) (first second : List Operation) :
    session.run (first ++ second) = (session.run first).run second :=
  List.foldl_append

end Session

end RichMessage
