import Mathlib.Data.List.TakeWhile
import RichMessage.Json.Token

set_option autoImplicit false

namespace RichMessage

namespace Numeral

theorem isDigit_of_mem_toDigits {n : Nat} {c : Char} (member : c ∈ Nat.toDigits 10 n) :
    c.isDigit = true :=
  Nat.isDigit_of_mem_toDigits (by decide) (by decide) member

/-- The digits of a number other than zero do not start with a zero. -/
theorem head?_toDigits_ne {n : Nat} (positive : 0 < n) :
    (Nat.toDigits 10 n).head? ≠ some '0' := by
  induction n using Nat.strongRecOn with
  | ind n ih =>
      rw [Nat.toDigits_eq_if (by decide)]
      split
      · rename_i small
        rw [List.head?_cons]
        intro zero
        have none : n = 0 := Nat.digitChar_eq_zero.mp (Option.some.inj zero)
        omega
      · -- the front has fewer digits and the same first one
        have shorter := ih (n / 10) (by omega) (by omega)
        cases front : Nat.toDigits 10 (n / 10) with
        | nil => exact absurd front Nat.toDigits_ne_nil
        | cons c rest =>
            rw [front] at shorter
            exact shorter

theorem digits?_toDigits (n : Nat) :
    digits? (Nat.toDigits 10 n) = some (Nat.toDigits 10 n, []) := by
  have all : ∀ c ∈ Nat.toDigits 10 n, c.isDigit = true := fun _ => isDigit_of_mem_toDigits
  have taken : (Nat.toDigits 10 n).takeWhile Char.isDigit = Nat.toDigits 10 n :=
    List.takeWhile_eq_self_iff.mpr all
  have dropped : (Nat.toDigits 10 n).dropWhile Char.isDigit = [] :=
    List.dropWhile_eq_nil_iff.mpr all
  rw [digits?, taken, dropped]
  cases found : Nat.toDigits 10 n with
  | nil => exact absurd found Nat.toDigits_ne_nil
  | cons c rest => rfl

theorem whole?_toDigits (n : Nat) :
    whole? (Nat.toDigits 10 n) = some (Nat.toDigits 10 n, []) := by
  have found := digits?_toDigits n
  unfold whole?
  split
  · rename_i c rest behind leading
    rw [found] at leading
    have digits : Nat.toDigits 10 n = '0' :: c :: rest :=
      congrArg Prod.fst (Option.some.inj leading)
    rcases Nat.eq_zero_or_pos n with rfl | positive
    · rw [Nat.toDigits_zero] at digits
      cases digits
    · have nonzero := head?_toDigits_ne positive
      rw [digits] at nonzero
      exact absurd rfl nonzero
  · exact found

theorem sign_toDigits (n : Nat) : sign (Nat.toDigits 10 n) = (false, Nat.toDigits 10 n) := by
  unfold sign
  split
  · rename_i rest negative
    have digit : '-'.isDigit = true := isDigit_of_mem_toDigits (n := n) (by rw [negative]; simp)
    exact absurd digit (by decide)
  · rfl

/-- Decimal digits, perhaps behind a minus sign, are read as a numeral. -/
theorem ofChars?_of_sign {text : List Char} {negative : Bool} {n : Nat}
    (signed : sign text = (negative, Nat.toDigits 10 n)) :
    ofChars? text = some ⟨negative, Nat.toDigits 10 n, none, none⟩ := by
  simp [ofChars?, signed, whole?_toDigits, fraction?, exponent?]

/-- The value of a numeral without fraction and exponent is an integer where that fits a word. -/
theorem value?_toDigits {n : Nat} {negative : Bool}
    (fits : FitsWord (if negative then -(n : Int) else n)) (signed : negative = true → n ≠ 0) :
    value? ⟨negative, Nat.toDigits 10 n, none, none⟩ =
      some (.int (if negative then -(n : Int) else n) fits) := by
  have magnitude : natOfDigits (Nat.toDigits 10 n) = n := Nat.ofDigitChars_ten_toDigits
  cases negative with
  | false =>
      have fits : FitsWord n := fits
      simp [value?, int?, magnitude, Number.ofInt?, fits]
  | true =>
      have fits : FitsWord (-(n : Int)) := fits
      have nonzero : n ≠ 0 := signed rfl
      simp [value?, int?, magnitude, Number.ofInt?, fits, nonzero]

end Numeral

namespace Number

def numeralOf (value : Int) : Numeral :=
  ⟨decide (value < 0), Nat.toDigits 10 value.natAbs, none, none⟩

theorem value?_numeralOf {value : Int} (fits : FitsWord value) :
    (numeralOf value).value? = some (.int value fits) := by
  have same : (if decide (value < 0) then -(value.natAbs : Int) else value.natAbs) = value := by
    by_cases negative : value < 0
    · rw [if_pos (decide_eq_true negative)]
      omega
    · rw [if_neg (by simpa using negative)]
      omega
  have signed : decide (value < 0) = true → value.natAbs ≠ 0 := by
    intro negative
    have below : value < 0 := of_decide_eq_true negative
    omega
  have read := Numeral.value?_toDigits (same.symm ▸ fits) signed
  rw [numeralOf, read]
  congr 2

theorem sign_render {value : Int} (fits : FitsWord value) :
    Numeral.sign (Number.int value fits).render =
      (decide (value < 0), Nat.toDigits 10 value.natAbs) := by
  rw [render]
  by_cases negative : value < 0
  · rw [if_pos negative, decide_eq_true negative]
    rfl
  · rw [if_neg negative, decide_eq_false negative, Numeral.sign_toDigits]

/-- The characters of an integer are digits and a minus sign in front. -/
theorem mem_render {value : Int} {fits : FitsWord value} {c : Char}
    (member : c ∈ (Number.int value fits).render) : c = '-' ∨ c.isDigit = true := by
  rw [render] at member
  split at member
  · rcases List.mem_cons.mp member with here | later
    · exact Or.inl here
    · exact Or.inr (Numeral.isDigit_of_mem_toDigits later)
  · exact Or.inr (Numeral.isDigit_of_mem_toDigits member)

theorem render_ne_nil {value : Int} (fits : FitsWord value) :
    (Number.int value fits).render ≠ [] := by
  rw [render]
  split
  · exact List.cons_ne_nil _ _
  · exact Nat.toDigits_ne_nil

theorem isWordChar_of_mem_render {value : Int} {fits : FitsWord value} {c : Char}
    (member : c ∈ (Number.int value fits).render) : Token.isWordChar c = true := by
  rcases mem_render member with rfl | digit
  · rfl
  · simp [Token.isWordChar, Char.isAlphanum, digit]

/-- The text of an integer is no literal name, and as a token it is the numeral of the integer. -/
theorem ofWord?_render {value : Int} (fits : FitsWord value) :
    Token.ofWord? (Number.int value fits).render = some (.number (numeralOf value)) := by
  have without {c : Char} (plain : c ≠ '-') (letter : c.isDigit = false) :
      c ∉ (Number.int value fits).render := by
    intro member
    rcases mem_render member with sign | digit
    · exact plain sign
    · exact Bool.false_ne_true (letter.symm.trans digit)
  have noNull : (Number.int value fits).render ≠ ['n', 'u', 'l', 'l'] := by
    intro same
    exact without (c := 'n') (by decide) (by decide) (by rw [same]; decide)
  have noTrue : (Number.int value fits).render ≠ ['t', 'r', 'u', 'e'] := by
    intro same
    exact without (c := 't') (by decide) (by decide) (by rw [same]; decide)
  have noFalse : (Number.int value fits).render ≠ ['f', 'a', 'l', 's', 'e'] := by
    intro same
    exact without (c := 'f') (by decide) (by decide) (by rw [same]; decide)
  rw [Token.ofWord?, if_neg noNull, if_neg noTrue, if_neg noFalse,
    Numeral.ofChars?_of_sign (sign_render fits), Option.map_some]
  rfl

end Number

end RichMessage
