import RichMessage.Json.Shortest

set_option autoImplicit false

namespace RichMessage

/-- Whether an integer fits a signed or an unsigned 64-bit word. -/
def FitsWord (value : Int) : Prop :=
  -9223372036854775808 ≤ value ∧ value < 18446744073709551616

instance (value : Int) : Decidable (FitsWord value) :=
  inferInstanceAs (Decidable (_ ∧ _))

inductive Number where
  | int (value : Int) (fits : FitsWord value)
  | float (value : Binary64)

namespace Number

/-- Integers outside the 64-bit range have no exact number. -/
def ofInt? (value : Int) : Option Number :=
  if h : FitsWord value then some (.int value h) else none

def ofWord (word : UInt64) : Number :=
  .int word.toNat ⟨by omega, by have below := word.toNat_lt; omega⟩

/-- The unsigned word that a number is, if it is one; floating-point numbers are never coerced. -/
def word? : Number → Option UInt64
  | .int value _ => if 0 ≤ value then some (UInt64.ofNat value.toNat) else none
  | .float _ => none

@[simp] theorem word?_ofWord (word : UInt64) : (ofWord word).word? = some word := by
  simp [ofWord, word?]

/-- Equality as the program tests it: integers by value, floating-point numbers by value, so that
`-0.0` is `0.0`, and never across the two kinds. -/
def same : Number → Number → Bool
  | .int m _, .int n _ => m == n
  | .float x, .float y => x.same y
  | _, _ => false

/-- Integers are written in decimal, floating-point numbers with the fewest digits. -/
def render : Number → List Char
  | .int value _ =>
    if value < 0 then '-' :: Nat.toDigits 10 value.natAbs else Nat.toDigits 10 value.natAbs
  | .float x => x.render

/-- Whether the number is an integer, whose text is exact. -/
def IsInteger : Number → Prop
  | .int _ _ => True
  | .float _ => False

instance : DecidablePred IsInteger
  | .int _ _ => isTrue trivial
  | .float _ => isFalse id

end Number

end RichMessage
