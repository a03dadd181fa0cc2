import RichMessage.Vocabulary

set_option autoImplicit false

/- The blocks of a panel are routed to the header, the body and the footer of its bubble by their
kinds and their order. The header takes titles from the top on, and one text behind a title, until
it is full or something else comes; from then on buttons go to the footer and all else goes to the
body. -/
namespace RichMessage

structure Sections (α : Type) where
  header : List α
  body : List α
  footer : List α
  deriving Repr, DecidableEq

/-- What the header has taken so far. -/
inductive HeaderState where
  | open (taken : Nat) (titleSeen textTaken : Bool)
  | closed
  deriving Repr, DecidableEq

namespace HeaderState

/-- The most blocks that the header takes. -/
def capacity : Nat := 2

def start : HeaderState := .open 0 false false

/-- The state after taking a block, or `none` when the header does not take it. -/
def take? : HeaderState → BlockKind → Option HeaderState
  | .open taken titleSeen textTaken, kind =>
    if taken < capacity then
      match kind with
      | .title => some (.open (taken + 1) true textTaken)
      | .text => if titleSeen && !textTaken then some (.open (taken + 1) titleSeen true) else none
      | _ => none
    else none
  | .closed, _ => none

end HeaderState

namespace Sections

variable {α : Type}

/-- Routes the blocks that are left; the first one that the header does not take closes it. -/
def routeFrom (kind : α → BlockKind) : HeaderState → List α → Sections α
  | _, [] => ⟨[], [], []⟩
  | state, block :: rest =>
    match state.take? (kind block) with
    | some state =>
      let others := routeFrom kind state rest
      { others with header := block :: others.header }
    | none =>
      let others := routeFrom kind .closed rest
      if kind block = .button then { others with footer := block :: others.footer }
      else { others with body := block :: others.body }

def route (kind : α → BlockKind) (blocks : List α) : Sections α :=
  routeFrom kind .start blocks

end Sections

end RichMessage
