import RichMessage.Json.Token
import RichMessage.Json.Written

set_option autoImplicit false

/- The reader takes one token at a time and keeps the containers that are still open on a stack, the
innermost first. A text is read when all its tokens are taken and exactly one value has come out. A
container inside `maxDepth` others is read to its end, so that its form is checked, but has no
value. -/
namespace RichMessage

/-- A container that is still open; its parts are kept in reverse. -/
inductive Frame where
  | array (items : List Written)
  | object (members : List (Option String × Written))
  /-- An object whose latest name still waits for its value. -/
  | member (members : List (Option String × Written)) (name : Option String)

inductive Expected where
  /-- A value. -/
  | value
  /-- A value, or the end of the array that has just been opened. -/
  | firstItem
  /-- A name, or the end of the object that has just been opened. -/
  | firstName
  /-- A name. -/
  | name
  /-- The colon after a name. -/
  | colon
  /-- A comma, or the end of the container. -/
  | separator
  /-- Nothing: the text has had its value. -/
  | nothing (result : Written)

/-- The open containers and what may come next. -/
structure Reader where
  frames : List Frame
  expected : Expected

namespace Reader

/-- The most containers that may be open around a container with a value. -/
def maxDepth : Nat := 127

def start : Reader := ⟨[], .value⟩

/-- A value has come to its end. -/
def put (w : Written) : List Frame → Option Reader
  | [] => some ⟨[], .nothing w⟩
  | .array items :: outer => some ⟨.array (w :: items) :: outer, .separator⟩
  | .member members name :: outer => some ⟨.object ((name, w) :: members) :: outer, .separator⟩
  | .object _ :: _ => none

/-- A container has come to its end inside the others. -/
def close (w : Written) (outer : List Frame) : Option Reader :=
  put (if outer.length < maxDepth then w else .unreadable) outer

/-- The first token of a value. -/
def value (frames : List Frame) : Token → Option Reader
  | .null => put .null frames
  | .bool b => put (.bool b) frames
  | .number numeral => put ((numeral.value?.map .number).getD .unreadable) frames
  | .text content => put ((content.map .str).getD .unreadable) frames
  | .openArray => some ⟨.array [] :: frames, .firstItem⟩
  | .openObject => some ⟨.object [] :: frames, .firstName⟩
  | _ => none

def name (frames : List Frame) (token : Token) : Option Reader :=
  match frames, token with
  | .object members :: outer, .text content => some ⟨.member members content :: outer, .colon⟩
  | _, _ => none

/-- Takes one token; `none` where no text goes on with it. -/
def step (r : Reader) (token : Token) : Option Reader :=
  match r.expected, token, r.frames with
  | .value, token, frames => value frames token
  | .firstItem, .closeArray, .array items :: outer => close (.arr items.reverse) outer
  | .firstItem, token, frames => value frames token
  | .firstName, .closeObject, .object members :: outer => close (.obj members.reverse) outer
  | .firstName, token, frames => name frames token
  | .name, token, frames => name frames token
  | .colon, .colon, frames => some ⟨frames, .value⟩
  | .separator, .comma, .array items :: outer => some ⟨.array items :: outer, .value⟩
  | .separator, .comma, .object members :: outer => some ⟨.object members :: outer, .name⟩
  | .separator, .closeArray, .array items :: outer => close (.arr items.reverse) outer
  | .separator, .closeObject, .object members :: outer => close (.obj members.reverse) outer
  | _, _, _ => none

def finish? (r : Reader) : Option Written :=
  match r.expected with
  | .nothing result => some result
  | _ => none

end Reader

def Written.ofTokens? (tokens : List Token) : Option Written :=
  (tokens.foldlM Reader.step Reader.start).bind Reader.finish?

def Written.parse? (text : String) : Option Written :=
  (Token.scan? text.toList).bind Written.ofTokens?

def Json.parse? (text : String) : Option Json :=
  (Written.parse? text).bind Written.toJson?

end RichMessage
