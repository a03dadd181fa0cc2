set_option autoImplicit false

/- The fractional numbers of a JSON document are finite binary64 values. A value is read from an
exact decimal significand below `2 ^ 64` and a power of ten, and it is seen again as the exact
number `mantissa * 2 ^ exponent`, from which its shortest decimal text is found. -/
namespace RichMessage

/-- A binary64 number that is neither infinite nor undefined. -/
structure Binary64 where
  val : Float
  finite : val.isFinite = true

namespace Binary64

/-- Infinities and undefined results are no numbers of a document. -/
def ofFloat? (x : Float) : Option Binary64 :=
  if h : x.isFinite = true then some ⟨x, h⟩ else none

def powerOfTen (n : Nat) : Float :=
  Float.ofScientific 1 false n

/-- The greatest power of ten that is finite. -/
def maxPowerOfTen : Nat := 308

/-- Divides by `10 ^ n`, one representable power at a time; a zero stays as it is. -/
def divideByPower (x : Float) (n : Nat) : Float :=
  if n ≤ maxPowerOfTen then x / powerOfTen n
  else if x == 0 then x
  else divideByPower (x / powerOfTen maxPowerOfTen) (n - maxPowerOfTen)
  termination_by n
  decreasing_by unfold maxPowerOfTen at *; omega

/-- Multiplies by a power of ten; `none` when that power is not representable. -/
def multiplyByPower? (x : Float) (n : Nat) : Option Float :=
  if n ≤ maxPowerOfTen then some (x * powerOfTen n)
  else if x == 0 then some x
  else none

/-- The number `± significand * 10 ^ exponent`, rounded after the conversion of the significand
and once more for each power of ten; `none` when it is too large to be finite. -/
def ofDecimal? (negative : Bool) (significand : Nat) (exponent : Int) : Option Binary64 := do
  let start := Float.ofNat significand
  let magnitude ←
    if 0 ≤ exponent then multiplyByPower? start exponent.toNat
    else some (divideByPower start exponent.natAbs)
  ofFloat? (if negative then -magnitude else magnitude)

/-- Equality of the numbers, so that the two zeros are the same. -/
def same (x y : Binary64) : Bool :=
  x.val == y.val

/-- The leading bit of a normal mantissa, which the encoding leaves out. -/
def hiddenBit : Nat := Nat.pow 2 52

/-- The sign bit, which tells the two zeros apart. -/
def negative (x : Binary64) : Bool :=
  decide (Nat.pow 2 63 ≤ x.val.toBits.toNat)

def exponentField (x : Binary64) : Nat :=
  x.val.toBits.toNat / hiddenBit % Nat.pow 2 11

def fractionField (x : Binary64) : Nat :=
  x.val.toBits.toNat % hiddenBit

/-- The absolute value is `mantissa * 2 ^ exponent`; normal numbers have the hidden bit. -/
def mantissa (x : Binary64) : Nat :=
  if x.exponentField = 0 then x.fractionField else hiddenBit + x.fractionField

/-- The power of two that the mantissa counts. -/
def exponent (x : Binary64) : Int :=
  max (x.exponentField : Int) 1 - 1075

end Binary64

end RichMessage
