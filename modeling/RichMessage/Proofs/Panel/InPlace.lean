import RichMessage.Panel.Mutation

set_option autoImplicit false

/- An editor changes its panels in place, one write after the other, and draws from a source that it
shares. Here a mutation is such a sequence of writes: where one of them fails, panels and source
stay as the writes before it have left them. The mutations of `RichMessage.Panel.Mutation`, which
give either a result or nothing, are these sequences, because nothing is written before all that can
fail has been checked. -/
namespace RichMessage

/-- The panels and the source that a mutation works on. -/
structure Desk (σ : Type) where
  panels : List Panel
  source : σ

namespace InPlace

variable {σ ε S α : Type}

/-- Goes on with a value that may be missing; where it is, everything stays as it has been left. -/
def require : Except ε α → EStateM ε S α
  | .ok value => pure value
  | .error reason => throw reason

theorem run_require (answer : Except ε α) (state : S) :
    (require answer).run state =
      match answer with
      | .ok value => .ok value state
      | .error reason => .error reason state := by
  cases answer <;> rfl

def draw (make : σ → α × σ) : EStateM Refusal (Desk σ) α :=
  modifyGet fun desk =>
    let (made, source) := make desk.source
    (made, { desk with source })

def put (panels : List Panel) : EStateM Refusal (Desk σ) PUnit :=
  modify fun desk => { desk with panels }

end InPlace

namespace Mutation

open InPlace

variable {σ : Type} [IdSource σ]

/-- Writes what a mutation changes, each draw and each write at its turn. -/
def write (mutation : Mutation) : EStateM Refusal (Desk σ) (Option String) :=
  match mutation with
  | .addBlock panel kind index => do
    let found ← require (locatePanel (← get).panels panel)
    let block ← draw (Block.create (.initial kind found.item.settings.theme))
    put (withBlocks found (insertClamped found.item.blocks (index.map UInt64.toNat) block))
    return some block.id
  | .updateBlock panel block content => do
    let found ← require (locatePanel (← get).panels panel)
    let place ← require (locateBlock found.item block)
    put (withBlocks found (place.replace [{ place.item with content }]))
    return none
  | .removeBlock panel block => do
    let found ← require (locatePanel (← get).panels panel)
    let place ← require (locateBlock found.item block)
    put (withBlocks found (place.replace []))
    return none
  | .duplicateBlock panel block => do
    let found ← require (locatePanel (← get).panels panel)
    let place ← require (locateBlock found.item block)
    let copy ← draw place.item.duplicate
    put (withBlocks found (place.replace [place.item, copy]))
    return some copy.id
  | .moveBlock panel origin target => do
    let found ← require (locatePanel (← get).panels panel)
    put (withBlocks found (moveItem found.item.blocks origin.toNat target.toNat))
    return none
  | .addPanel index theme => do
    let panel ← draw (Panel.empty theme)
    put (insertClamped (← get).panels (index.map UInt64.toNat) panel)
    return some panel.id
  | .updateSettings panel settings => do
    let found ← require (locatePanel (← get).panels panel)
    put (found.replace [{ found.item with settings }])
    return none
  | .duplicatePanel panel => do
    let found ← require (locatePanel (← get).panels panel)
    let copy ← draw found.item.duplicate
    put (found.replace [found.item, copy])
    return some copy.id
  | .removePanel panel => do
    let found ← require (locatePanel (← get).panels panel)
    put (found.replace [])
    return none
  | .movePanel origin target => do
    put (moveItem (← get).panels origin.toNat target.toNat)
    return none

def runInPlace (mutation : Mutation) : EStateM Refusal (Desk σ) (Option String) := do
  require (mutation.validate (← get).panels)
  mutation.write

omit [IdSource σ]

/-- What is left on the desk: what a mutation has left behind, or the desk as it was. -/
def leave (panels : List Panel) (source : σ) :
    Except Refusal (Mutated σ) → EStateM.Result Refusal (Desk σ) (Option String)
  | .ok done => .ok done.created ⟨done.panels, done.source⟩
  | .error reason => .error reason ⟨panels, source⟩

theorem leave_bind {α : Type} (panels : List Panel) (source : σ) (first : Except Refusal α)
    (next : α → Except Refusal (Mutated σ)) :
    leave panels source (first >>= next) =
      match first with
      | .ok value => leave panels source (next value)
      | .error reason => .error reason ⟨panels, source⟩ := by
  cases first <;> rfl

variable [IdSource σ]

/-- Every place is found before the first write, so a refusal leaves the desk as it was. -/
theorem run_write (mutation : Mutation) (panels : List Panel) (source : σ) :
    mutation.write.run ⟨panels, source⟩ = leave panels source (mutation.perform panels source) := by
  cases mutation with
  | addBlock panel | moveBlock panel | updateSettings panel | duplicatePanel panel
  | removePanel panel =>
      simp only [write, perform, leave_bind, EStateM.run_bind, EStateM.run_get, run_require]
      cases locatePanel panels panel <;> rfl
  | updateBlock panel block | removeBlock panel block | duplicateBlock panel block =>
      simp only [write, perform, leave_bind, EStateM.run_bind, EStateM.run_get, run_require]
      cases locatePanel panels panel with
      | error reason => rfl
      | ok found =>
          dsimp only
          cases locateBlock found.item block <;> rfl
  | addPanel | movePanel => rfl

theorem run_runInPlace (mutation : Mutation) (panels : List Panel) (source : σ) :
    mutation.runInPlace.run ⟨panels, source⟩ =
      leave panels source (mutation.run panels source) := by
  simp only [runInPlace, run, leave_bind, EStateM.run_bind, EStateM.run_get, run_require]
  cases mutation.validate panels with
  | error reason => rfl
  | ok _ => exact run_write mutation panels source

end Mutation

end RichMessage
