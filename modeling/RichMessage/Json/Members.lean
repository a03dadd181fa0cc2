import RichMessage.Json.Basic

set_option autoImplicit false

/- An object is a list of named values. Reading takes the first member of a name. Writing replaces
that member where it stands, or puts a new one before the first greater name, so that lists in order
stay in order. Names are ordered by their code points, which is the order of their UTF-8 bytes. -/
namespace RichMessage

namespace Members

variable {α : Type}

def get? (members : List (String × α)) (name : String) : Option α :=
  members.lookup name

def contains (members : List (String × α)) (name : String) : Bool :=
  (get? members name).isSome

/-- Puts a new member before the first one with a greater name. -/
def place (name : String) (value : α) : List (String × α) → List (String × α)
  | [] => [(name, value)]
  | (other, held) :: rest =>
    if name < other then (name, value) :: (other, held) :: rest
    else (other, held) :: place name value rest

/-- Gives the first member of a name another value. -/
def replace (name : String) (value : α) : List (String × α) → List (String × α)
  | [] => []
  | (other, held) :: rest =>
    if name = other then (other, value) :: rest else (other, held) :: replace name value rest

def insert (members : List (String × α)) (name : String) (value : α) : List (String × α) :=
  if contains members name then replace name value members else place name value members

def erase (members : List (String × α)) (name : String) : List (String × α) :=
  members.filter fun member => member.1 != name

/-- Members written one after the other; of a repeated name the last value stays. -/
def ofList (members : List (String × α)) : List (String × α) :=
  members.foldl (fun written member => insert written member.1 member.2) []

/-- The names rise strictly, so that none is repeated. -/
def Ordered (members : List (String × α)) : Prop :=
  members.Pairwise fun a b => a.1 < b.1

end Members

namespace Json

/-- The value of a member; `none` for anything that is not an object. -/
def field? (node : Json) (name : String) : Option Json :=
  match node with
  | .obj members => Members.get? members name
  | _ => none

def textField? (node : Json) (name : String) : Option String :=
  (node.field? name).bind str?

mutual
/-- The same value with the members of every object in order. -/
def canonical : Json → Json
  | .null => .null
  | .bool value => .bool value
  | .number value => .number value
  | .str value => .str value
  | .arr items => .arr (canonicalItems items)
  | .obj members => .obj (Members.ofList (canonicalMembers members))

def canonicalItems : List Json → List Json
  | [] => []
  | v :: vs => v.canonical :: canonicalItems vs

def canonicalMembers : List (String × Json) → List (String × Json)
  | [] => []
  | (name, v) :: ms => (name, v.canonical) :: canonicalMembers ms
end

mutual
/-- All objects of the value have their members in order. -/
def Ordered : Json → Prop
  | .arr items => OrderedItems items
  | .obj members => Members.Ordered members ∧ OrderedMembers members
  | _ => True

def OrderedItems : List Json → Prop
  | [] => True
  | v :: vs => v.Ordered ∧ OrderedItems vs

def OrderedMembers : List (String × Json) → Prop
  | [] => True
  | (_, v) :: ms => v.Ordered ∧ OrderedMembers ms
end

mutual
def Integral : Json → Prop
  | .number value => value.IsInteger
  | .arr items => IntegralItems items
  | .obj members => IntegralMembers members
  | _ => True

def IntegralItems : List Json → Prop
  | [] => True
  | v :: vs => v.Integral ∧ IntegralItems vs

def IntegralMembers : List (String × Json) → Prop
  | [] => True
  | (_, v) :: ms => v.Integral ∧ IntegralMembers ms
end

end Json

end RichMessage
