import RichMessage.Json.Quoted

set_option autoImplicit false

namespace RichMessage.Quoted

theorem hexValue?_hexDigit {n : Nat} (small : n < 16) : hexValue? (hexDigit n) = some n := by
  have each : ∀ m < 16, hexValue? (hexDigit m) = some m := by decide
  exact each n small

/-- A short escape stands for the character that it was written for. -/
theorem unescape?_of_shortEscape? {c letter : Char} (short : shortEscape? c = some letter) :
    unescape? letter = some c ∧ letter ≠ 'u' := by
  unfold shortEscape? at short
  repeat' split at short
  all_goals cases short
  all_goals
    subst c
    exact ⟨rfl, by decide⟩

/-- A character without a short escape is none of those that end or escape a part of a string. -/
theorem plain_of_shortEscape? {c : Char} (long : shortEscape? c = none) : c ≠ '"' ∧ c ≠ '\\' := by
  constructor
  · rintro rfl
    cases long
  · rintro rfl
    cases long

/-- Whether a character is written by the digits of its code. -/
def isSpelled (c : Char) : Bool :=
  (shortEscape? c).isNone && decide (c.toNat < 0x20)

/-- What the written form of a character is read as. -/
def pieceOf (c : Char) : Piece :=
  if isSpelled c then .unit c.toNat else .char c

theorem toNat_lt_of_isSpelled {c : Char} (spelled : isSpelled c = true) : c.toNat < 0x20 :=
  of_decide_eq_true (Bool.and_eq_true_iff.mp spelled).2

/-- A code unit below the surrogates is the character with that code, whatever follows it. -/
theorem resolve?_unit {code : Nat} (small : code < 0xD800) (rest : List Piece) :
    resolve? (.unit code :: rest) = (resolve? rest).map (Char.ofNat code :: ·) := by
  have notHigh : isHigh code = false := decide_eq_false (by omega)
  have notLow : isLow code = false := decide_eq_false (by omega)
  cases rest with
  | nil => simp [resolve?, notHigh, notLow]
  | cons piece rest =>
      cases piece with
      | char c => simp [resolve?, notHigh, notLow]
      | unit low => simp [resolve?, notHigh, notLow]

/-- The pieces of a text come to that text. -/
theorem resolve?_map_pieceOf (text : List Char) : resolve? (text.map pieceOf) = some text := by
  induction text with
  | nil => rfl
  | cons c rest ih =>
      rw [List.map_cons, pieceOf]
      by_cases spelled : isSpelled c
      · have low := toNat_lt_of_isSpelled spelled
        rw [if_pos spelled, resolve?_unit (by omega), ih, Option.map_some, Char.ofNat_toNat]
      · rw [if_neg spelled, resolve?, ih, Option.map_some]

end RichMessage.Quoted
