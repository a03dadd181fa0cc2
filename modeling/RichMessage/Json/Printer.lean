import RichMessage.Json.Members
import RichMessage.Json.Quoted

set_option autoImplicit false

namespace RichMessage.Json

/-- How the parts of a container are set apart. -/
inductive Layout where
  /-- No blanks at all. -/
  | compact
  /-- A line for every part, two blanks deeper than its container, and a blank after a colon. -/
  | indented
  deriving Repr, DecidableEq

namespace Layout

def lineBreak (layout : Layout) (depth : Nat) : List Char :=
  match layout with
  | .compact => []
  | .indented => '\n' :: List.replicate (2 * depth) ' '

def colon (layout : Layout) : List Char :=
  match layout with
  | .compact => [':']
  | .indented => [':', ' ']

end Layout

mutual
/-- The text of a value that stands at a depth. -/
def render (layout : Layout) (depth : Nat) : Json → List Char
  | .null => ['n', 'u', 'l', 'l']
  | .bool true => ['t', 'r', 'u', 'e']
  | .bool false => ['f', 'a', 'l', 's', 'e']
  | .number value => value.render
  | .str value => Quoted.encode value.toList
  | .arr [] => ['[', ']']
  | .arr (v :: vs) =>
    '[' :: (layout.lineBreak (depth + 1) ++ render layout (depth + 1) v ++
      renderItems layout (depth + 1) vs ++ layout.lineBreak depth ++ [']'])
  | .obj [] => ['{', '}']
  | .obj ((name, v) :: ms) =>
    '{' :: (layout.lineBreak (depth + 1) ++ Quoted.encode name.toList ++ layout.colon ++
      render layout (depth + 1) v ++ renderMembers layout (depth + 1) ms ++
      layout.lineBreak depth ++ ['}'])

/-- The elements after the first one, each behind a comma. -/
def renderItems (layout : Layout) (depth : Nat) : List Json → List Char
  | [] => []
  | v :: vs => ',' :: (layout.lineBreak depth ++ render layout depth v ++
      renderItems layout depth vs)

/-- The members after the first one, each behind a comma. -/
def renderMembers (layout : Layout) (depth : Nat) : List (String × Json) → List Char
  | [] => []
  | (name, v) :: ms => ',' :: (layout.lineBreak depth ++ Quoted.encode name.toList ++
      layout.colon ++ render layout depth v ++ renderMembers layout depth ms)
end

def print (layout : Layout) (node : Json) : String :=
  String.ofList (node.render layout 0)

def compact (node : Json) : String :=
  node.print .compact

def pretty (node : Json) : String :=
  node.print .indented

end RichMessage.Json
