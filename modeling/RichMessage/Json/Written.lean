import RichMessage.Json.Members

set_option autoImplicit false

/- A text says more than the value it denotes: an object may repeat a name, and a part may be well
formed and yet have no value, because a number is too large, half of a surrogate pair stands alone
or the containers are nested too deep. Whoever skips over such a part does not notice, so readers of
typed values look at the written form. -/
namespace RichMessage

/-- A value with repeated names and parts without a value. -/
inductive Written where
  | null
  | bool (value : Bool)
  | number (value : Number)
  | str (value : String)
  | arr (items : List Written)
  | obj (members : List (Option String × Written))
  /-- A well-formed part that has no value. -/
  | unreadable
  deriving Inhabited

namespace Written

mutual
/-- The value, if every part has one. Of a repeated name the last member counts. -/
def toJson? : Written → Option Json
  | .null => some .null
  | .bool value => some (.bool value)
  | .number value => some (.number value)
  | .str value => some (.str value)
  | .arr items => (itemsToJson? items).map .arr
  | .obj members => (membersToJson? members).map fun ms => .obj (Members.ofList ms)
  | .unreadable => none

def itemsToJson? : List Written → Option (List Json)
  | [] => some []
  | w :: ws => (toJson? w).bind fun v => (itemsToJson? ws).map (v :: ·)

/-- The names and values of all members, as they stand. -/
def membersToJson? : List (Option String × Written) → Option (List (String × Json))
  | [] => some []
  | (some name, w) :: ms =>
    (toJson? w).bind fun v => (membersToJson? ms).map ((name, v) :: ·)
  | (none, _) :: _ => none
end

mutual
/-- A value in its written form. -/
def ofJson : Json → Written
  | .null => .null
  | .bool value => .bool value
  | .number value => .number value
  | .str value => .str value
  | .arr items => .arr (itemsOfJson items)
  | .obj members => .obj (membersOfJson members)

def itemsOfJson : List Json → List Written
  | [] => []
  | v :: vs => ofJson v :: itemsOfJson vs

def membersOfJson : List (String × Json) → List (Option String × Written)
  | [] => []
  | (name, v) :: ms => (some name, ofJson v) :: membersOfJson ms
end

/-- Whether every part has a value. -/
def readable (w : Written) : Bool :=
  w.toJson?.isSome

end Written

end RichMessage
