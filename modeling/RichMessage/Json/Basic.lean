import RichMessage.Json.Number

set_option autoImplicit false

/- The tree that documents are made of. An object is a list of members, which the operations of
`RichMessage.Json.Members` keep in the order of their names. Recursion over a value goes through a
value, a list of values and a list of members at once, so that it stays structural. -/
namespace RichMessage

inductive Json where
  | null
  | bool (value : Bool)
  | number (value : Number)
  | str (value : String)
  | arr (items : List Json)
  | obj (members : List (String × Json))
  deriving Inhabited

namespace Json

def str? : Json → Option String
  | .str value => some value
  | _ => none

def bool? : Json → Option Bool
  | .bool value => some value
  | _ => none

def items? : Json → Option (List Json)
  | .arr items => some items
  | _ => none

def members? : Json → Option (List (String × Json))
  | .obj members => some members
  | _ => none

/-- The elements of an array, and none for anything else. -/
def items (node : Json) : List Json :=
  node.items?.getD []

def isObject (node : Json) : Bool :=
  node.members?.isSome

/-- The number of a word, such as an index or a count. -/
def ofWord (word : UInt64) : Json :=
  .number (.ofWord word)

mutual
/-- Equality as the program tests it: numbers by `Number.same`, all else part by part. -/
def same : Json → Json → Bool
  | .null, .null => true
  | .bool a, .bool b => a == b
  | .number a, .number b => a.same b
  | .str a, .str b => a == b
  | .arr a, .arr b => sameItems a b
  | .obj a, .obj b => sameMembers a b
  | _, _ => false

/-- Equal lengths and equal values at every place. -/
def sameItems : List Json → List Json → Bool
  | [], [] => true
  | a :: as, b :: bs => a.same b && sameItems as bs
  | _, _ => false

/-- Equal lengths, equal names and equal values at every place. -/
def sameMembers : List (String × Json) → List (String × Json) → Bool
  | [], [] => true
  | (k, a) :: as, (l, b) :: bs => k == l && a.same b && sameMembers as bs
  | _, _ => false
end

/-- Whether two values are one node. Strings and containers are one when they share an allocation,
which `shared` tells; what has no allocation is told from others by its value. -/
def identical (shared : Bool) : Json → Json → Bool
  | .arr _, .arr _ => shared
  | .obj _, .obj _ => shared
  | .str _, .str _ => shared
  | .null, .null => true
  | .bool a, .bool b => a == b
  | .number a, .number b => a.same b
  | _, _ => false

mutual
/-- How many arrays and objects are nested at the deepest place. -/
def depth : Json → Nat
  | .arr items => itemsDepth items + 1
  | .obj members => membersDepth members + 1
  | _ => 0

def itemsDepth : List Json → Nat
  | [] => 0
  | v :: vs => max v.depth (itemsDepth vs)

def membersDepth : List (String × Json) → Nat
  | [] => 0
  | (_, v) :: ms => max v.depth (membersDepth ms)
end

end Json

end RichMessage
