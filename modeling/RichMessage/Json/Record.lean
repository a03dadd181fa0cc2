import RichMessage.Json.Written

set_option autoImplicit false

/- Typed values are read from written ones. A record is an object with its fields in any order, or
an array with its fields in their own order. A tagged value carries the name of its case beside the
fields of that case, so the whole value is read before its case is known, and inside it two
spellings are accepted that are refused elsewhere: a case may be given by its position, and the
payload of a plain name may be an empty object. -/
namespace RichMessage

/-- How a value is read. -/
inductive Strictness where
  /-- Outside of tagged values. -/
  | strict
  /-- Inside a tagged value. -/
  | lenient
  deriving Repr, DecidableEq

namespace Written

def str? : Written → Option String
  | .str value => some value
  | _ => none

def bool? : Written → Option Bool
  | .bool value => some value
  | _ => none

/-- The unsigned word of a number; there is no conversion from floating-point numbers. -/
def word? : Written → Option UInt64
  | .number value => value.word?
  | _ => none

def list? {α : Type} (read : Written → Option α) : Written → Option (List α)
  | .arr items => items.mapM read
  | _ => none

/-- Reads null as nothing. -/
def nullable? {α : Type} (read : Written → Option α) : Written → Option (Option α)
  | .null => some none
  | w => (read w).map some

/-- The members of an object with their names, all of which must be readable. -/
def named? : List (Option String × Written) → Option (List (String × Written))
  | [] => some []
  | (some name, w) :: rest => (named? rest).map ((name, w) :: ·)
  | (none, _) :: _ => none

/-- The fields of a record with the given names. Unknown members of an object are skipped whatever
they hold, a known one must not be repeated, and an array must not have more elements than names. -/
def record? (names : List String) : Written → Option (List (String × Written))
  | .arr items => if items.length ≤ names.length then some (names.zip items) else none
  | .obj members =>
    (named? members).bind fun members =>
      let known := members.filter fun member => names.contains member.1
      if (known.map Prod.fst).Nodup then some known else none
  | _ => none

def required? {α : Type} (fields : List (String × Written)) (name : String)
    (read : Written → Option α) : Option α :=
  (Members.get? fields name).bind read

/-- A field that has a value of its own when it is left out. -/
def defaulted? {α : Type} (fields : List (String × Written)) (name : String) (default : α)
    (read : Written → Option α) : Option α :=
  match Members.get? fields name with
  | some w => read w
  | none => some default

/-- A field that may be left out or null. -/
def optional? {α : Type} (fields : List (String × Written)) (name : String)
    (read : Written → Option α) : Option (Option α) :=
  defaulted? fields name none (nullable? read)

/-- The name under which an object carries its case. -/
def tagName : String := "type"

/-- The tag of a tagged value and the fields beside it: the first element of an array, or the only
member of an object with the tag's name. No part of the value may be without a value. -/
def untag? (w : Written) : Option (Written × Written) :=
  if w.readable then
    match w with
    | .arr (tag :: fields) => some (tag, .arr fields)
    | .obj members =>
      match members.partition fun member => member.1 == some tagName with
      | ([(_, tag)], fields) => some (tag, .obj fields)
      | _ => none
    | _ => none
  else none

/-- The name of a case, given by name or, inside another tagged value, by position. -/
def case? (strictness : Strictness) (names : List String) : Written → Option String
  | .str name => if names.contains name then some name else none
  | .number value =>
    match strictness with
    | .strict => none
    | .lenient => value.word?.bind fun position => names[position.toNat]?
  | _ => none

/-- The case of a tagged value and its fields. -/
def tagged? (strictness : Strictness) (names : List String) (w : Written) :
    Option (String × Written) :=
  (untag? w).bind fun (tag, fields) => (case? strictness names tag).map fun name => (name, fields)

/-- Whether a value is what a case without fields may carry: an object of any members, or an array
without elements. -/
def isFieldless : Written → Bool
  | .arr [] => true
  | .obj _ => true
  | _ => false

/-- Whether a value may stand for the payload that a plain name does not have. -/
def isUnit (strictness : Strictness) : Written → Bool
  | .null => true
  | .obj [] => strictness = .lenient
  | _ => false

/-- A plain name: a string, or an object whose only member has that name and no payload. -/
def plainName? (strictness : Strictness) : Written → Option String
  | .str name => some name
  | .obj [(some name, payload)] => if isUnit strictness payload then some name else none
  | _ => none

end Written

namespace Json

/-- A member that is written only when it has a value. -/
def optionalMember {α : Type} (name : String) (write : α → Json) :
    Option α → List (String × Json)
  | some value => [(name, write value)]
  | none => []

/-- A value, or null where there is none. -/
def orNull {α : Type} (write : α → Json) : Option α → Json
  | some value => write value
  | none => .null

end Json

end RichMessage
