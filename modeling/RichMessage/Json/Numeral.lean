import RichMessage.Json.Number

set_option autoImplicit false

namespace RichMessage

structure Numeral where
  negative : Bool
  whole : List Char
  fraction : Option (List Char)
  exponent : Option (Bool × List Char)
  deriving Repr, DecidableEq

namespace Numeral

def digits? (text : List Char) : Option (List Char × List Char) :=
  match text.takeWhile Char.isDigit with
  | [] => none
  | digits => some (digits, text.dropWhile Char.isDigit)

/-- The whole part: a lone zero, or digits that do not start with one. -/
def whole? (text : List Char) : Option (List Char × List Char) :=
  match digits? text with
  | some ('0' :: _ :: _, _) => none
  | found => found

def fraction? : List Char → Option (Option (List Char) × List Char)
  | '.' :: rest => (digits? rest).map fun (digits, rest) => (some digits, rest)
  | rest => some (none, rest)

/-- The sign of an exponent, which counts as positive when it is left out. -/
def exponentSign : List Char → Bool × List Char
  | '-' :: rest => (true, rest)
  | '+' :: rest => (false, rest)
  | rest => (false, rest)

/-- The exponent after its letter, if there is a letter. -/
def exponent? : List Char → Option (Option (Bool × List Char) × List Char)
  | [] => some (none, [])
  | letter :: rest =>
    if letter = 'e' ∨ letter = 'E' then
      let (negative, rest) := exponentSign rest
      (digits? rest).map fun (digits, rest) => (some (negative, digits), rest)
    else some (none, letter :: rest)

def sign : List Char → Bool × List Char
  | '-' :: rest => (true, rest)
  | rest => (false, rest)

def ofChars? (text : List Char) : Option Numeral := do
  let (negative, rest) := sign text
  let (whole, rest) ← whole? rest
  let (fraction, rest) ← fraction? rest
  let (exponent, rest) ← exponent? rest
  if rest = [] then some ⟨negative, whole, fraction, exponent⟩ else none

def natOfDigits (digits : List Char) : Nat :=
  Nat.ofDigitChars 10 digits 0

/-- Appends digits to a significand for as long as it stays below `2 ^ 64`, and counts the digits
from the first one that no longer fits. -/
def absorb : Nat → List Char → Nat × Nat
  | significand, [] => (significand, 0)
  | significand, digit :: rest =>
    let next := significand * 10 + (digit.toNat - '0'.toNat)
    if next < UInt64.size then absorb next rest else (significand, rest.length + 1)

/-- The significand and the decimal exponent of the digits alone. Whole digits that do not fit raise
the exponent, fraction digits that fit lower it, and the other fraction digits are dropped. -/
def scaledDigits (n : Numeral) : Nat × Int :=
  let (head, unread) := absorb 0 n.whole
  let fraction := n.fraction.getD []
  let (significand, dropped) := absorb head fraction
  (significand, (unread : Int) - ((fraction.length - dropped : Nat) : Int))

def scale (n : Numeral) : Int :=
  match n.exponent with
  | none => 0
  | some (negative, digits) =>
    if negative then -(natOfDigits digits : Int) else natOfDigits digits

/-- The binary64 number that the numeral denotes; `none` when it is too large. -/
def float? (n : Numeral) : Option Number :=
  let (significand, exponent) := n.scaledDigits
  (Binary64.ofDecimal? n.negative significand (exponent + n.scale)).map .float

/-- The integer that a numeral without fraction and exponent denotes, when it fits 64 bits. The
numeral `-0` is not an integer, because its sign has to be kept. -/
def int? (n : Numeral) : Option Number :=
  if n.fraction.isSome ∨ n.exponent.isSome then none
  else
    let magnitude := natOfDigits n.whole
    if n.negative then (if magnitude = 0 then none else Number.ofInt? (-(magnitude : Int)))
    else Number.ofInt? magnitude

def value? (n : Numeral) : Option Number :=
  n.int?.or n.float?

end Numeral

end RichMessage
