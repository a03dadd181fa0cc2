import RichMessage.Json.Binary64

set_option autoImplicit false

/- The text of a binary64 number has the fewest digits that read back as the same number, and of
those the ones nearest to it. The interval of reals that round to `m * 2 ^ q` is taken exactly, in
quarters of the last place, and the decimal grids are tried from the coarsest to the finest: on a
grid only the two neighbours of the number can be the nearest point inside the interval. -/
namespace RichMessage

/-- The decimal number `0.d₁d₂… * 10 ^ point`; its first digit is not zero. -/
structure DecimalDigits where
  digits : List Char
  point : Int
  deriving Repr, DecidableEq

namespace Shortest

structure Ratio where
  num : Nat
  den : Nat

def Ratio.ofBinary (count : Nat) (power : Int) : Ratio :=
  if 0 ≤ power then ⟨count * Nat.pow 2 power.toNat, 1⟩ else ⟨count, Nat.pow 2 power.natAbs⟩

/-- The number in units of `10 ^ power`. -/
def Ratio.inUnits (r : Ratio) (power : Int) : Ratio :=
  if 0 ≤ power then ⟨r.num, r.den * Nat.pow 10 power.toNat⟩
  else ⟨r.num * Nat.pow 10 power.natAbs, r.den⟩

/-- The reals that round to one binary64 number: its neighbourhood `[low, high]` in common units
`1 / den`, the ends belonging to it exactly for an even mantissa. -/
structure Interval where
  low : Nat
  value : Nat
  high : Nat
  den : Nat
  closed : Bool

/-- Half a place on each side, but a quarter below a power of two, where the places get finer. -/
def Interval.ofBinary (mantissa : Nat) (exponent : Int) : Interval :=
  let below := if mantissa = Binary64.hiddenBit ∧ -1074 < exponent then 1 else 2
  let quarter := Ratio.ofBinary 1 (exponent - 2)
  { low := (4 * mantissa - below) * quarter.num
    value := 4 * mantissa * quarter.num
    high := (4 * mantissa + 2) * quarter.num
    den := quarter.den
    closed := mantissa % 2 = 0 }

/-- Whether `n` units of `num / den` lie in the interval. -/
def Interval.holds (i : Interval) (grid : Ratio) (n : Nat) : Bool :=
  let point := n * grid.num * i.den
  let low := i.low * grid.den
  let high := i.high * grid.den
  if i.closed then decide (low ≤ point ∧ point ≤ high) else decide (low < point ∧ point < high)

def grid (power : Int) : Ratio :=
  Ratio.inUnits ⟨1, 1⟩ (-power)

/-- The point of the grid nearest to the number, if it reads back; a tie goes to the even one. -/
def Interval.nearest? (i : Interval) (power : Int) : Option Nat :=
  let g := grid power
  let scaled : Ratio := ⟨i.value * g.den, i.den * g.num⟩
  let below := scaled.num / scaled.den
  let past := 2 * (scaled.num % scaled.den)
  let up := decide (scaled.den < past) || (decide (past = scaled.den) && below % 2 == 1)
  let first := if up then below + 1 else below
  let second := if up then below else below + 1
  if i.holds g first then some first
  else if i.holds g second then some second
  else none

/-- The first of `j, j + 1, …` for which the number reaches `10 ^ -(j + 1)`. -/
def leadingZeros (num den : Nat) : Nat → Nat → Nat
  | 0, j => j
  | fuel + 1, j => if den ≤ num * Nat.pow 10 (j + 1) then j else leadingZeros num den fuel (j + 1)

/-- The `point` with `10 ^ (point - 1) ≤ num / den < 10 ^ point`; no binary64 number has more than
324 zeros after the decimal point. -/
def pointOf (num den : Nat) : Int :=
  if den ≤ num then (Nat.toDigits 10 (num / den)).length else -(leadingZeros num den 330 0 : Int)

/-- Tries grids of `count`, `count + 1`, … digits. Seventeen digits always read back. A point that
is the next power of ten has a single digit. -/
def search (i : Interval) (point : Int) : Nat → Nat → DecimalDigits
  | 0, _ => ⟨['0'], 0⟩
  | fuel + 1, count =>
    match i.nearest? (point - count) with
    | some n => if n = Nat.pow 10 count then ⟨['1'], point + 1⟩ else ⟨Nat.toDigits 10 n, point⟩
    | none => search i point fuel (count + 1)

end Shortest

/-- The fewest digits that read back as the absolute value of a number other than zero. -/
def Binary64.shortest (x : Binary64) : DecimalDigits :=
  let i := Shortest.Interval.ofBinary x.mantissa x.exponent
  Shortest.search i (Shortest.pointOf i.value i.den) 17 1

/-- The exponents of the first digit that are written without a power of ten. -/
def Binary64.plainExponents : Int × Int := (-5, 15)

/-- Plain notation keeps at least one digit on both sides of the point; otherwise the first digit
stands before the point and the exponent carries its sign, written out when positive. -/
def DecimalDigits.render (d : DecimalDigits) : List Char :=
  let count := d.digits.length
  let first := d.point - 1
  if Binary64.plainExponents.1 ≤ first ∧ first ≤ Binary64.plainExponents.2 then
    if d.point ≤ 0 then
      ['0', '.'] ++ List.replicate d.point.natAbs '0' ++ d.digits
    else if count ≤ d.point.toNat then
      d.digits ++ List.replicate (d.point.toNat - count) '0' ++ ['.', '0']
    else
      d.digits.take d.point.toNat ++ '.' :: d.digits.drop d.point.toNat
  else
    let fraction := if count ≤ 1 then [] else '.' :: d.digits.drop 1
    let sign := if first < 0 then '-' else '+'
    d.digits.take 1 ++ fraction ++ 'e' :: sign :: Nat.toDigits 10 first.natAbs

/-- The text of a binary64 number; both zeros keep their sign. -/
def Binary64.render (x : Binary64) : List Char :=
  let magnitude := if x.mantissa = 0 then ['0', '.', '0'] else x.shortest.render
  if x.negative then '-' :: magnitude else magnitude

end RichMessage
