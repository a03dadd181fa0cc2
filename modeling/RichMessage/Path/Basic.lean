set_option autoImplicit false

namespace RichMessage

inductive Segment where
  | index (value : Nat)
  | key (name : String)
  deriving Repr, DecidableEq

namespace Segment

/-- The text of a step, which is also the name of the member it means on an object. -/
def text : Segment → String
  | .index value => value.repr
  | .key name => name

/-- Whether the step means an array element. -/
def isIndex : Segment → Bool
  | .index _ => true
  | .key _ => false

/-- Reads a step; a number with a sign, with a superfluous zero or too large for a word is a key. -/
def parse (raw : List Char) : Segment :=
  let value := Nat.ofDigitChars 10 raw 0
  if value < UInt64.size ∧ Nat.toDigits 10 value = raw then .index value
  else .key (String.ofList raw)

end Segment

/-- The steps from the root to a place; the root itself needs none. -/
abbrev Path := List Segment

namespace Path

/-- Reads a path: steps are set apart by dots, and the empty text is the root. -/
def parse (raw : String) : Path :=
  if raw = "" then [] else (raw.toList.splitOn '.').map Segment.parse

def text (path : Path) : String :=
  ".".intercalate (path.map Segment.text)

end Path

end RichMessage
