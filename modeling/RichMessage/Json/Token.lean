import RichMessage.Json.Numeral
import RichMessage.Json.Quoted

set_option autoImplicit false

namespace RichMessage

inductive Token where
  | openArray
  | closeArray
  | openObject
  | closeObject
  | comma
  | colon
  | null
  | bool (value : Bool)
  | number (numeral : Numeral)
  /-- A string, or `none` where half of a surrogate pair stands alone. -/
  | text (content : Option String)
  deriving Repr, DecidableEq

namespace Token

/-- The blanks that may stand between tokens. -/
def isBlank (c : Char) : Bool :=
  c == ' ' || c == '\t' || c == '\n' || c == '\r'

/-- The characters of literal names and numerals. -/
def isWordChar (c : Char) : Bool :=
  c.isAlphanum || c == '+' || c == '-' || c == '.'

def punctuation? (c : Char) : Option Token :=
  if c = '[' then some .openArray
  else if c = ']' then some .closeArray
  else if c = '{' then some .openObject
  else if c = '}' then some .closeObject
  else if c = ',' then some .comma
  else if c = ':' then some .colon
  else none

/-- A literal name or a numeral. -/
def ofWord? (word : List Char) : Option Token :=
  if word = ['n', 'u', 'l', 'l'] then some .null
  else if word = ['t', 'r', 'u', 'e'] then some (.bool true)
  else if word = ['f', 'a', 'l', 's', 'e'] then some (.bool false)
  else (Numeral.ofChars? word).map .number

/-- A string body that has come to its closing quote. -/
def ofPieces (pieces : List Quoted.Piece) : Token :=
  .text ((Quoted.resolve? pieces).map String.ofList)

/-- Where the scanner stands; whatever it collects is kept in reverse. -/
inductive Mode where
  /-- Between two tokens. -/
  | between
  /-- Inside a literal name or a numeral. -/
  | word (read : List Char)
  /-- Inside a string. -/
  | string (read : List Quoted.Piece)
  /-- After a backslash inside a string. -/
  | escape (read : List Quoted.Piece)
  /-- Inside the digits of a code unit, with the digits still to come and the value so far. -/
  | digits (read : List Quoted.Piece) (due : Nat) (code : Nat)
  deriving Repr, DecidableEq

/-- The scanner: the tokens read, latest first, and what it is inside of. -/
structure Scanner where
  tokens : List Token
  mode : Mode
  deriving Repr, DecidableEq

namespace Scanner

def start : Scanner := ⟨[], .between⟩

/-- A character outside of strings and words. -/
def begin (tokens : List Token) (c : Char) : Option Scanner :=
  if isBlank c then some ⟨tokens, .between⟩
  else if c = '"' then some ⟨tokens, .string []⟩
  else if isWordChar c then some ⟨tokens, .word [c]⟩
  else (punctuation? c).map fun token => ⟨token :: tokens, .between⟩

/-- Takes one character; `none` where no text goes on with it. -/
def step (s : Scanner) (c : Char) : Option Scanner :=
  match s.mode with
  | .between => begin s.tokens c
  | .word read =>
    if isWordChar c then some ⟨s.tokens, .word (c :: read)⟩
    else (ofWord? read.reverse).bind fun token => begin (token :: s.tokens) c
  | .string read =>
    if c = '"' then some ⟨ofPieces read.reverse :: s.tokens, .between⟩
    else if c = '\\' then some ⟨s.tokens, .escape read⟩
    else if c.toNat < 0x20 then none
    else some ⟨s.tokens, .string (.char c :: read)⟩
  | .escape read =>
    if c = 'u' then some ⟨s.tokens, .digits read 3 0⟩
    else (Quoted.unescape? c).map fun plain => ⟨s.tokens, .string (.char plain :: read)⟩
  | .digits read due code =>
    (Quoted.hexValue? c).map fun digit =>
      match due with
      | 0 => ⟨s.tokens, .string (.unit (code * 16 + digit) :: read)⟩
      | due + 1 => ⟨s.tokens, .digits read due (code * 16 + digit)⟩

/-- The tokens at the end of the text, in order; a string must not be left open. -/
def finish? (s : Scanner) : Option (List Token) :=
  match s.mode with
  | .between => some s.tokens.reverse
  | .word read => (ofWord? read.reverse).map fun token => (token :: s.tokens).reverse
  | _ => none

end Scanner

def scan? (text : List Char) : Option (List Token) :=
  (text.foldlM Scanner.step Scanner.start).bind Scanner.finish?

end Token

end RichMessage
