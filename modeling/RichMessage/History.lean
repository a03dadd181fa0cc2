set_option autoImplicit false

namespace RichMessage

/-- A state and the change that lies between it and its neighbour in time. -/
structure Snapshot (α : Type) where
  state : α
  description : String
  deriving Repr, DecidableEq

/-- The snapshots before and after the current state, the nearest first. -/
structure History (α : Type) where
  /-- How many snapshots are kept for undoing; zero keeps all of them. -/
  limit : Nat
  past : List (Snapshot α) := []
  future : List (Snapshot α) := []
  deriving Repr, DecidableEq

namespace History

variable {α : Type}

/-- The limit of a history that has not been given one. -/
def defaultLimit : Nat := 100

/-- Drops the oldest snapshot when there is one too many. -/
def trim (limit : Nat) (past : List (Snapshot α)) : List (Snapshot α) :=
  if 0 < limit ∧ limit < past.length then past.dropLast else past

/-- Records the state that a change leaves. -/
def record (history : History α) (previous : α) (description : String) : History α :=
  { history with
    past := trim history.limit (⟨previous, description⟩ :: history.past)
    future := [] }

/-- The state before the latest change, and the history around it. -/
def undo? (history : History α) (current : α) : Option (α × History α) :=
  match history.past with
  | [] => none
  | latest :: past =>
    some (latest.state,
      { history with past, future := ⟨current, latest.description⟩ :: history.future })

/-- The state after the change undone last, and the history around it. -/
def redo? (history : History α) (current : α) : Option (α × History α) :=
  match history.future with
  | [] => none
  | next :: future =>
    some (next.state,
      { history with past := ⟨current, next.description⟩ :: history.past, future })

def clear (history : History α) : History α :=
  { history with past := [], future := [] }

def canUndo (history : History α) : Bool :=
  !history.past.isEmpty

def canRedo (history : History α) : Bool :=
  !history.future.isEmpty

def undoDescription? (history : History α) : Option String :=
  history.past.head?.map Snapshot.description

def redoDescription? (history : History α) : Option String :=
  history.future.head?.map Snapshot.description

/-- The snapshots to go back to, the oldest first. -/
def undoStates (history : History α) : List α :=
  (history.past.map Snapshot.state).reverse

end History

end RichMessage
