import RichMessage.Json.Members
import RichMessage.Path.Basic
import RichMessage.Rearrange

set_option autoImplicit false

namespace RichMessage

namespace Json

/-- The part of a container that a step means. -/
def child? (node : Json) (step : Segment) : Option Json :=
  match node, step with
  | .arr items, .index i => items[i]?
  | .obj members, step => Members.get? members step.text
  | _, _ => none

def at? (node : Json) : Path → Option Json
  | [] => some node
  | step :: rest => (node.child? step).bind fun part => part.at? rest

/-- The greatest number of steps that an edit goes through. -/
def maxSteps : Nat := 128

/-- The most nulls that one edit puts behind the end of an array. -/
def maxPadding : Nat := 1024

/-- The container that a step writes to: the value itself, or a new one of the kind that the step
asks for where there is none. -/
def containerFor (step : Segment) : Json → Json
  | .arr items => .arr items
  | .obj members => .obj members
  | _ => if step.isIndex then .arr [] else .obj []

/-- Puts a value at an index, with nulls up to it where the array is too short. -/
def setItem (items : List Json) (i : Nat) (value : Json) : List Json :=
  if i < items.length then items.set i value
  else items ++ List.replicate (i - items.length) .null ++ [value]

/-- Writes a value at a path. An array takes no key, and no index far behind its end. -/
def set? (node : Json) (path : Path) (value : Json) : Option Json :=
  match path with
  | [] => some value
  | step :: rest =>
    match containerFor step node, step with
    | .arr items, .index i =>
      if items.length + maxPadding < i then none
      else ((items[i]?.getD .null).set? rest value).map fun part => .arr (setItem items i part)
    | .obj members, step =>
      (((Members.get? members step.text).getD .null).set? rest value).map fun part =>
        .obj (Members.insert members step.text part)
    | _, _ => none

/-- Gives the value at a path to a function and puts its result there. -/
def modify? (f : Json → Option Json) (node : Json) : Path → Option Json
  | [] => f node
  | step :: rest =>
    match node, step with
    | .arr items, .index i =>
      items[i]?.bind fun part => (part.modify? f rest).map fun part => .arr (items.set i part)
    | .obj members, step =>
      (Members.get? members step.text).bind fun part =>
        (part.modify? f rest).map fun part => .obj (Members.insert members step.text part)
    | _, _ => none

/-- Takes the part out of a container that a step means. -/
def removeChild? (step : Segment) (node : Json) : Option Json :=
  match node, step with
  | .arr items, .index i => if i < items.length then some (.arr (items.eraseIdx i)) else none
  | .obj members, step =>
    if Members.contains members step.text then some (.obj (Members.erase members step.text))
    else none
  | _, _ => none

/-- Takes out what stands at a path; the root stays. -/
def remove? (node : Json) (path : Path) : Option Json :=
  match path.getLast? with
  | none => none
  | some last => node.modify? (removeChild? last) path.dropLast

/-- Puts an element into an array, at its end when the index lies behind it. -/
def insertItem? (i : Nat) (element : Json) : Json → Option Json
  | .arr items => some (.arr (insertClamped items (some i) element))
  | _ => none

def moveItem? (source target : Nat) : Json → Option Json
  | .arr items =>
    if source ≠ target ∧ source < items.length ∧ target < items.length then
      some (.arr (moveItem items source target))
    else none
  | _ => none

end Json

/-- A value that is handed to a write. A clone of the edited root shares the allocation of that
root, and nothing else does, also when it is equal to the root. -/
inductive Given where
  | apart (value : Json)
  | root

instance : Coe Json Given := ⟨.apart⟩

def Given.value (root : Json) : Given → Json
  | .apart value => value
  | .root => root

inductive Edit where
  | set (path : Path) (given : Given)
  | remove (path : Path)
  | insert (path : Path) (index : Nat) (element : Json)
  | move (path : Path) (source target : Nat)

namespace Edit

def path : Edit → Path
  | .set path _ => path
  | .remove path => path
  | .insert path _ _ => path
  | .move path _ _ => path

/-- The edited value, if the path resolves and is not too long. -/
def result? (edit : Edit) (root : Json) : Option Json :=
  if Json.maxSteps < edit.path.length then none
  else match edit with
    | .set path given => root.set? path (given.value root)
    | .remove path => root.remove? path
    | .insert path i element => root.modify? (Json.insertItem? i element) path
    | .move path source target => root.modify? (Json.moveItem? source target) path

/-- Whether the edited value has the allocation of the root. A write below the root and every other
edit that resolves makes the containers on its path anew. -/
def sharesRoot : Edit → Bool
  | .set [] .root => true
  | _ => false

/-- The edited value, if the edit has an effect: there is none when the node at the root stays. -/
def effect? (edit : Edit) (root : Json) : Option Json :=
  (edit.result? root).bind fun next =>
    if next.identical edit.sharesRoot root then none else some next

def description : Edit → String
  | .set path _ => "Set " ++ path.text
  | .remove path => "Remove " ++ path.text
  | .insert path _ _ => "Insert into " ++ path.text
  | .move path source target =>
    "Move " ++ path.text ++ ": " ++ source.repr ++ " → " ++ target.repr

end Edit

end RichMessage
