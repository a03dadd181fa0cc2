set_option autoImplicit false

/- A string stands between quotes. Quotes, backslashes and the characters below U+0020 are escaped
and everything else stands for itself. A text may also spell any UTF-16 code unit by four
hexadecimal digits, so a string body is first a list of pieces, characters and code units, and the
code units of a surrogate pair are joined afterwards. -/
namespace RichMessage.Quoted

def hexDigit (n : Nat) : Char :=
  Nat.digitChar n

/-- The value of a hexadecimal digit of either case. -/
def hexValue? (c : Char) : Option Nat :=
  if '0' ≤ c ∧ c ≤ '9' then some (c.toNat - '0'.toNat)
  else if 'a' ≤ c ∧ c ≤ 'f' then some (c.toNat - 'a'.toNat + 10)
  else if 'A' ≤ c ∧ c ≤ 'F' then some (c.toNat - 'A'.toNat + 10)
  else none

/-- The letter of a character that has a short escape. -/
def shortEscape? (c : Char) : Option Char :=
  if c = '"' then some '"'
  else if c = '\\' then some '\\'
  else if c = '\x08' then some 'b'
  else if c = '\x0c' then some 'f'
  else if c = '\n' then some 'n'
  else if c = '\r' then some 'r'
  else if c = '\t' then some 't'
  else none

/-- The written form of one character. -/
def encodeChar (c : Char) : List Char :=
  match shortEscape? c with
  | some letter => ['\\', letter]
  | none =>
    if c.toNat < 0x20 then
      ['\\', 'u', '0', '0', hexDigit (c.toNat / 16), hexDigit (c.toNat % 16)]
    else [c]

def encode (text : List Char) : List Char :=
  '"' :: text.flatMap encodeChar ++ ['"']

/-- The character that a short escape stands for; a slash may be escaped but never is. -/
def unescape? (letter : Char) : Option Char :=
  if letter = '"' then some '"'
  else if letter = '\\' then some '\\'
  else if letter = '/' then some '/'
  else if letter = 'b' then some '\x08'
  else if letter = 'f' then some '\x0c'
  else if letter = 'n' then some '\n'
  else if letter = 'r' then some '\r'
  else if letter = 't' then some '\t'
  else none

inductive Piece where
  /-- A character that stands for itself or has a short escape. -/
  | char (c : Char)
  /-- A UTF-16 code unit spelled by its digits. -/
  | unit (code : Nat)
  deriving Repr, DecidableEq

/-- The first half of a surrogate pair. -/
def isHigh (code : Nat) : Bool :=
  decide (0xD800 ≤ code ∧ code ≤ 0xDBFF)

/-- The second half of a surrogate pair. -/
def isLow (code : Nat) : Bool :=
  decide (0xDC00 ≤ code ∧ code ≤ 0xDFFF)

def joinPair (high low : Nat) : Char :=
  Char.ofNat ((high - 0xD800) * 0x400 + (low - 0xDC00) + 0x10000)

/-- The text of a string body; `none` when half of a surrogate pair stands alone. -/
def resolve? : List Piece → Option (List Char)
  | [] => some []
  | .char c :: rest => (resolve? rest).map (c :: ·)
  | .unit high :: .unit low :: rest =>
    if isHigh high then
      if isLow low then (resolve? rest).map (joinPair high low :: ·) else none
    else if isLow high then none
    else (resolve? (.unit low :: rest)).map (Char.ofNat high :: ·)
  | .unit code :: rest =>
    if isHigh code || isLow code then none else (resolve? rest).map (Char.ofNat code :: ·)

end RichMessage.Quoted
