import RichMessage.Proofs.Panel.Effect
import RichMessage.Proofs.Panel.InPlace
import RichMessage.Proofs.Rearrange

set_option autoImplicit false

/- Panels and blocks stand in lists that are read and changed by position. The check before a
mutation looks for elements, and the mutation itself looks once more, for positions; there it reads,
puts in and takes out. A position outside of its list is no refusal: it would stop the program half
way. These mutations are those of `RichMessage.Panel.Mutation`, since both look for the first
element with an identifier, and the check leaves no position outside. -/
namespace RichMessage

/-- Why work by position stops before its end. -/
inductive Halt where
  | refused (reason : Refusal)
  /-- A position lies outside of its list. -/
  | outside (position length : Nat)
  deriving Repr, DecidableEq

namespace ByPosition

section Access

variable {α : Type}

def elementAt (items : List α) (position : Nat) : Except Halt α :=
  match items[position]? with
  | some item => .ok item
  | none => .error (.outside position items.length)

def assignAt (items : List α) (position : Nat) (item : α) : Except Halt (List α) :=
  if position < items.length then .ok (items.set position item)
  else .error (.outside position items.length)

/-- Puts an element at a position, which may be the one behind the last. -/
def insertAt (items : List α) (position : Nat) (item : α) : Except Halt (List α) :=
  if position ≤ items.length then .ok (items.insertIdx position item)
  else .error (.outside position items.length)

def removeAt (items : List α) (position : Nat) : Except Halt (α × List α) := do
  let item ← elementAt items position
  return (item, items.eraseIdx position)

/-- Takes out the element at `origin` and puts it back at `target`, unless they are the same. -/
def moveAt (items : List α) (origin target : Nat) : Except Halt (List α) :=
  if origin = target then .ok items
  else do
    let (item, rest) ← removeAt items origin
    insertAt rest target item

theorem find?_eq_located (property : α → Bool) (items : List α) :
    items.find? property = (Located.find? property items).map Located.item := by
  induction items with
  | nil => rfl
  | cons item rest ih =>
      by_cases hit : property item
      · simp only [List.find?_cons, Located.find?, hit, if_true, Option.map_some]
      · simp only [List.find?_cons, Located.find?, hit, Bool.false_eq_true, if_false, ih,
          Option.map_map]
        rfl

theorem findIdx?_eq_located (property : α → Bool) (items : List α) :
    items.findIdx? property =
      (Located.find? property items).map fun found => found.before.length := by
  induction items with
  | nil => rfl
  | cons item rest ih =>
      by_cases hit : property item
      · simp only [List.findIdx?_cons, Located.find?, hit, if_true, Option.map_some,
          List.length_nil]
      · simp only [List.findIdx?_cons, Located.find?, hit, Bool.false_eq_true, if_false, ih,
          Option.map_map]
        rfl

variable {property : α → Bool} {items : List α} {found : Located α}

theorem elementAt_located (located : Located.find? property items = some found) :
    elementAt items found.before.length = .ok found.item := by
  have here : items[found.before.length]? = some found.item := by
    rw [Located.eq_append_of_find? located, List.getElem?_append_right (Nat.le_refl _),
      Nat.sub_self, List.getElem?_cons_zero]
  rw [elementAt, here]

theorem length_located (located : Located.find? property items = some found) :
    found.before.length < items.length := by
  rw [Located.eq_append_of_find? located, List.length_append, List.length_cons]
  omega

theorem assignAt_located (located : Located.find? property items = some found) (item : α) :
    assignAt items found.before.length item = .ok (found.replace [item]) := by
  rw [assignAt, if_pos (length_located located), Located.eq_append_of_find? located,
    List.set_append_right _ _ (Nat.le_refl _), Nat.sub_self, List.set_cons_zero, Located.replace,
    List.append_assoc, List.singleton_append]

theorem removeAt_located (located : Located.find? property items = some found) :
    removeAt items found.before.length = .ok (found.item, found.replace []) := by
  have rest : items.eraseIdx found.before.length = found.replace [] := by
    rw [Located.eq_append_of_find? located, List.eraseIdx_append_of_length_le (Nat.le_refl _),
      Nat.sub_self, List.eraseIdx_cons_zero, Located.replace, List.append_nil]
  rw [removeAt, elementAt_located located, rest]
  rfl

theorem insertAt_located (located : Located.find? property items = some found) (item : α) :
    insertAt items (found.before.length + 1) item = .ok (found.replace [found.item, item]) := by
  have behind : found.before.length + 1 ≤ items.length := length_located located
  obtain ⟨front, rest, front_length, split, larger⟩ := putAt_replace_pair located item
  rw [insertAt, if_pos behind]
  rw [larger, split, ← front_length, insertIdx_between]

theorem insertAt_clamped (items : List α) (index : Option Nat) (item : α) :
    insertAt items (min (index.getD items.length) items.length) item =
      .ok (insertClamped items index item) := by
  rw [insertAt, if_pos (Nat.min_le_right _ _), insertClamped]

theorem moveAt_inside {origin target : Nat} (originInside : origin < items.length)
    (targetInside : target < items.length) :
    moveAt items origin target = .ok (moveItem items origin target) := by
  have there : items[origin]? = some items[origin] := List.getElem?_eq_getElem originInside
  rw [moveAt, moveItem, there]
  dsimp only
  by_cases same : origin = target
  · subst same
    rw [if_pos rfl, List.insertIdx_eraseIdx_getElem originInside]
  · have length : (items.eraseIdx origin).length = items.length - 1 :=
      List.length_eraseIdx_of_lt originInside
    -- the target was checked against the longer list, and an element may still go behind the last
    have inside : target ≤ (items.eraseIdx origin).length := by omega
    have taken : removeAt items origin = .ok (items[origin], items.eraseIdx origin) := by
      rw [removeAt, elementAt, there]
      rfl
    rw [if_neg same, taken]
    exact if_pos inside

end Access

def findPanel (panels : List Panel) (id : String) : Except Halt Panel :=
  match panels.find? fun panel => panel.id == id with
  | some panel => .ok panel
  | none => .error (.refused (.panelNotFound id))

def panelPosition (panels : List Panel) (id : String) : Except Halt Nat :=
  match panels.findIdx? fun panel => panel.id == id with
  | some position => .ok position
  | none => .error (.refused (.panelNotFound id))

def blockPosition (panel : Panel) (id : String) : Except Halt Nat :=
  match panel.position? id with
  | some position => .ok position
  | none => .error (.refused (.blockNotFound id))

def checkPosition (position : UInt64) (length : Nat) : Except Halt Unit :=
  (Mutation.checkIndex position length).mapError .refused

/-- Steps on a desk that may be refused or go astray. -/
abbrev Labor (σ α : Type) := EStateM Halt (Desk σ) α

variable {σ α : Type}

/-- Draws identifiers from the source on the desk. -/
def drawing (make : σ → α × σ) : Labor σ α :=
  modifyGet fun desk =>
    let (made, source) := make desk.source
    (made, { desk with source })

def leaving (panels : List Panel) : Labor σ PUnit :=
  modify fun desk => { desk with panels }

/-- Looks for a panel that is to be changed: where it stands, and the panel. -/
def reaching (id : String) : Labor σ (Nat × Panel) := do
  let position ← InPlace.require (panelPosition (← get).panels id)
  let panel ← InPlace.require (elementAt (← get).panels position)
  return (position, panel)

/-- Gives the position of a panel another one. -/
def assigning (position : Nat) (panel : Panel) : Labor σ PUnit := do
  leaving (← InPlace.require (assignAt (← get).panels position panel))

end ByPosition

namespace Mutation

open ByPosition
open InPlace (require)

/-- Refuses what cannot be done, looking for elements. -/
def checkByPosition (mutation : Mutation) (panels : List Panel) : Except Halt Unit :=
  match mutation with
  | .addBlock panel _ _ => do
    let _ ← findPanel panels panel
  | .updateBlock panel block content => do
    let panel ← findPanel panels panel
    let old ← elementAt panel.blocks (← blockPosition panel block)
    if old.content.kind = content.kind then .ok ()
    else .error (.refused (.kindMismatch block old.content.kind content.kind))
  | .removeBlock panel block | .duplicateBlock panel block => do
    let panel ← findPanel panels panel
    let _ ← blockPosition panel block
  | .moveBlock panel origin target => do
    let panel ← findPanel panels panel
    checkPosition origin panel.blocks.length
    checkPosition target panel.blocks.length
  | .addPanel _ _ => .ok ()
  | .updateSettings panel _ | .duplicatePanel panel => do
    let _ ← findPanel panels panel
  | .removePanel panel => do
    let _ ← findPanel panels panel
    if panels.length ≤ 1 then .error (.refused .lastPanel) else .ok ()
  | .movePanel origin target => do
    checkPosition origin panels.length
    checkPosition target panels.length

variable {σ : Type} [IdSource σ]

/-- Writes what a mutation changes, looking for positions once more. -/
def writeByPosition (mutation : Mutation) : Labor σ (Option String) :=
  match mutation with
  | .addBlock id kind index => do
    let (position, panel) ← reaching id
    let block ← drawing (Block.create (.initial kind panel.settings.theme))
    let behind := panel.blocks.length
    let place := min ((index.map UInt64.toNat).getD behind) behind
    let blocks ← require (insertAt panel.blocks place block)
    assigning position { panel with blocks }
    return some block.id
  | .updateBlock id block content => do
    let (position, panel) ← reaching id
    let place ← require (blockPosition panel block)
    let old ← require (elementAt panel.blocks place)
    let blocks ← require (assignAt panel.blocks place { old with content })
    assigning position { panel with blocks }
    return none
  | .removeBlock id block => do
    let (position, panel) ← reaching id
    let place ← require (blockPosition panel block)
    let (_, blocks) ← require (removeAt panel.blocks place)
    assigning position { panel with blocks }
    return none
  | .duplicateBlock id block => do
    let (position, panel) ← reaching id
    let place ← require (blockPosition panel block)
    let old ← require (elementAt panel.blocks place)
    let copy ← drawing old.duplicate
    let blocks ← require (insertAt panel.blocks (place + 1) copy)
    assigning position { panel with blocks }
    return some copy.id
  | .moveBlock id origin target => do
    let (position, panel) ← reaching id
    let blocks ← require (moveAt panel.blocks origin.toNat target.toNat)
    assigning position { panel with blocks }
    return none
  | .addPanel index theme => do
    let panel ← drawing (Panel.empty theme)
    let panels := (← get).panels
    let behind := panels.length
    let place := min ((index.map UInt64.toNat).getD behind) behind
    leaving (← require (insertAt panels place panel))
    return some panel.id
  | .updateSettings id settings => do
    let (position, panel) ← reaching id
    assigning position { panel with settings }
    return none
  | .duplicatePanel id => do
    let position ← require (panelPosition (← get).panels id)
    let old ← require (elementAt (← get).panels position)
    let copy ← drawing old.duplicate
    leaving (← require (insertAt (← get).panels (position + 1) copy))
    return some copy.id
  | .removePanel id => do
    let position ← require (panelPosition (← get).panels id)
    let (_, panels) ← require (removeAt (← get).panels position)
    leaving panels
    return none
  | .movePanel origin target => do
    leaving (← require (moveAt (← get).panels origin.toNat target.toNat))
    return none

def runByPosition (mutation : Mutation) : Labor σ (Option String) := do
  require (mutation.checkByPosition (← get).panels)
  mutation.writeByPosition

omit [IdSource σ]

theorem findPanel_eq (panels : List Panel) (id : String) :
    findPanel panels id =
      match locatePanel panels id with
      | .ok found => .ok found.item
      | .error reason => .error (.refused reason) := by
  unfold findPanel locatePanel
  rw [find?_eq_located]
  cases Located.find? (fun panel : Panel => panel.id == id) panels <;> rfl

theorem blockPosition_eq (panel : Panel) (id : String) :
    blockPosition panel id =
      match locateBlock panel id with
      | .ok place => .ok place.before.length
      | .error reason => .error (.refused reason) := by
  unfold blockPosition locateBlock Panel.position?
  rw [findIdx?_eq_located]
  cases Located.find? (fun block : Block => block.id == id) panel.blocks <;> rfl

/-- Looking for elements refuses what taking lists apart refuses, and no position is outside. -/
theorem checkByPosition_eq (mutation : Mutation) (panels : List Panel) :
    mutation.checkByPosition panels = (mutation.validate panels).mapError .refused := by
  cases mutation with
  | addBlock panel | updateSettings panel | duplicatePanel panel =>
      simp only [checkByPosition, validate, findPanel_eq]
      cases locatePanel panels panel <;> rfl
  | removeBlock panel block | duplicateBlock panel block =>
      simp only [checkByPosition, validate, findPanel_eq]
      cases locatePanel panels panel with
      | error reason => rfl
      | ok found =>
          simp only [bind, Except.bind, blockPosition_eq]
          cases locateBlock found.item block <;> rfl
  | updateBlock panel block content =>
      simp only [checkByPosition, validate, findPanel_eq]
      cases locatePanel panels panel with
      | error reason => rfl
      | ok found =>
          simp only [bind, Except.bind, blockPosition_eq]
          cases placed : locateBlock found.item block with
          | error reason => rfl
          | ok place =>
              simp only [elementAt_located (findsBlock_of_locateBlock placed)]
              split <;> rfl
  | moveBlock panel origin target =>
      simp only [checkByPosition, validate, findPanel_eq]
      cases locatePanel panels panel with
      | error reason => rfl
      | ok found =>
          simp only [bind, Except.bind, checkPosition]
          cases checkIndex origin found.item.blocks.length <;> rfl
  | addPanel => rfl
  | removePanel panel =>
      simp only [checkByPosition, validate, findPanel_eq]
      cases locatePanel panels panel with
      | error reason => rfl
      | ok found =>
          simp only [bind, Except.bind]
          split <;> rfl
  | movePanel origin target =>
      simp only [checkByPosition, validate, checkPosition, bind, Except.bind]
      cases checkIndex origin panels.length <;> rfl

theorem panelPosition_of_findsPanel {panels : List Panel} {id : String} {found : Located Panel}
    (located : FindsPanel panels id found) :
    panelPosition panels id = .ok found.before.length := by
  rw [panelPosition, findIdx?_eq_located, located]
  rfl

theorem run_reaching {panels : List Panel} {id : String} {found : Located Panel}
    (located : FindsPanel panels id found) (source : σ) :
    (reaching id).run ⟨panels, source⟩ =
      .ok (found.before.length, found.item) ⟨panels, source⟩ := by
  simp only [reaching, EStateM.run_bind, EStateM.run_get, InPlace.run_require,
    panelPosition_of_findsPanel located, elementAt_located located]
  rfl

theorem run_assigning {panels : List Panel} {id : String} {found : Located Panel}
    (located : FindsPanel panels id found) (source : σ) (panel : Panel) :
    (assigning found.before.length panel).run ⟨panels, source⟩ =
      .ok ⟨⟩ ⟨found.replace [panel], source⟩ := by
  simp only [assigning, EStateM.run_bind, EStateM.run_get, InPlace.run_require,
    assignAt_located located]
  rfl

theorem blockPosition_of_findsBlock {panel : Panel} {id : String} {place : Located Block}
    (placed : FindsBlock panel id place) : blockPosition panel id = .ok place.before.length := by
  rw [blockPosition_eq, locateBlock, placed]

variable [IdSource σ]

/-- An accepted mutation finds every position again and inside of its list. -/
theorem run_writeByPosition {mutation : Mutation} {panels : List Panel} {source : σ}
    {done : Mutated σ} (effect : Effect panels source mutation done) :
    mutation.writeByPosition.run ⟨panels, source⟩ =
      .ok done.created ⟨done.panels, done.source⟩ := by
  cases effect with
  | addBlock kind index located =>
      simp only [writeByPosition, EStateM.run_bind, run_reaching located, drawing,
        EStateM.run_modifyGet, InPlace.run_require, insertAt_clamped, run_assigning located]
      rfl
  | updateBlock located placed same =>
      simp only [writeByPosition, EStateM.run_bind, run_reaching located, InPlace.run_require,
        blockPosition_of_findsBlock placed, elementAt_located placed, assignAt_located placed,
        run_assigning located]
      rfl
  | removeBlock located placed =>
      simp only [writeByPosition, EStateM.run_bind, run_reaching located, InPlace.run_require,
        blockPosition_of_findsBlock placed, removeAt_located placed, run_assigning located]
      rfl
  | duplicateBlock located placed =>
      simp only [writeByPosition, EStateM.run_bind, run_reaching located, InPlace.run_require,
        blockPosition_of_findsBlock placed, elementAt_located placed, drawing,
        EStateM.run_modifyGet, insertAt_located placed, run_assigning located]
      rfl
  | moveBlock located originInside targetInside =>
      simp only [writeByPosition, EStateM.run_bind, run_reaching located, InPlace.run_require,
        moveAt_inside originInside targetInside, run_assigning located]
      rfl
  | addPanel index theme =>
      simp only [writeByPosition, EStateM.run_bind, drawing, EStateM.run_modifyGet,
        EStateM.run_get, InPlace.run_require, insertAt_clamped]
      rfl
  | updateSettings settings located =>
      simp only [writeByPosition, EStateM.run_bind, run_reaching located, run_assigning located]
      rfl
  | duplicatePanel located =>
      simp only [writeByPosition, EStateM.run_bind, EStateM.run_get, InPlace.run_require,
        panelPosition_of_findsPanel located, elementAt_located located, drawing,
        EStateM.run_modifyGet, insertAt_located located]
      rfl
  | removePanel located several =>
      simp only [writeByPosition, EStateM.run_bind, EStateM.run_get, InPlace.run_require,
        panelPosition_of_findsPanel located, removeAt_located located]
      rfl
  | movePanel originInside targetInside =>
      simp only [writeByPosition, EStateM.run_bind, EStateM.run_get, InPlace.run_require,
        moveAt_inside originInside targetInside]
      rfl

end Mutation

end RichMessage
