import RichMessage.History
import RichMessage.Path.Edit

set_option autoImplicit false

namespace RichMessage

structure TreeEditor where
  root : Json
  history : History Json

inductive EditorStep where
  | edit (edit : Edit)
  | undo
  | redo

namespace TreeEditor

/-- An editor for a value that has not been edited yet. -/
def create (root : Json) (limit : Nat) : TreeEditor :=
  ⟨root, { limit }⟩

def at? (editor : TreeEditor) (path : Path) : Option Json :=
  editor.root.at? path

def edit? (editor : TreeEditor) (edit : Edit) : Option TreeEditor :=
  (edit.effect? editor.root).map fun root =>
    ⟨root, editor.history.record editor.root edit.description⟩

def undo? (editor : TreeEditor) : Option TreeEditor :=
  (editor.history.undo? editor.root).map fun (root, history) => ⟨root, history⟩

def redo? (editor : TreeEditor) : Option TreeEditor :=
  (editor.history.redo? editor.root).map fun (root, history) => ⟨root, history⟩

/-- The editor after a step, if the step does anything. -/
def step? (editor : TreeEditor) : EditorStep → Option TreeEditor
  | .edit edit => editor.edit? edit
  | .undo => editor.undo?
  | .redo => editor.redo?

/-- Does a step and tells whether it did anything. -/
def perform (editor : TreeEditor) (step : EditorStep) : Bool × TreeEditor :=
  match editor.step? step with
  | some next => (true, next)
  | none => (false, editor)

end TreeEditor

end RichMessage
