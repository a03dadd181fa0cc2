import Mathlib.Data.List.Forall2
import RichMessage.Path.Edit
import RichMessage.Proofs.Json.Numeral
import RichMessage.Proofs.Path.Text

set_option autoImplicit false

/- A step is an index when its text spells a number below `2 ^ 64`, by digits alone and without a
superfluous zero. The usual reader of words takes more: a plus sign, and any zeros in front. Reading
a word and writing it again gives the text back only where the spelling is the proper one, so steps
can be read in that way too. Every other step is a key, and each step has the name that its text is.
-/
namespace RichMessage

namespace Segment

/-- A text is the decimal spelling of a number. -/
structure Spells (raw : List Char) (n : Nat) : Prop where
  nonempty : raw ≠ []
  digits : ∀ c ∈ raw, c.isDigit = true
  leading : raw.head? = some '0' → raw = ['0']
  value : Nat.ofDigitChars 10 raw 0 = n

theorem le_ofDigitChars (digits : List Char) (start : Nat) :
    start ≤ Nat.ofDigitChars 10 digits start := by
  rw [Nat.ofDigitChars_eq_ofDigitChars_zero]
  exact Nat.le_add_right_of_le (Nat.le_mul_of_pos_left _ (Nat.pow_pos (by decide)))

theorem value_of_isDigit {c : Char} (digit : c.isDigit = true) :
    c.toNat - '0'.toNat < 10 ∧ Nat.digitChar (c.toNat - '0'.toNat) = c := by
  have range : 48 ≤ c.toNat ∧ c.toNat ≤ 57 := Char.isDigit_iff_toNat.mp digit
  have small : c.toNat - '0'.toNat < 10 := show c.toNat - 48 < 10 by omega
  refine ⟨small, Char.toNat_inj.mp ?_⟩
  rw [Nat.toNat_digitChar_of_lt_ten small]
  exact show 48 + (c.toNat - 48) = c.toNat by omega

/-- Digits behind those of a number other than zero are the last digits of the number they make. -/
theorem toDigits_ofDigitChars {start : Nat} {digits : List Char} (positive : 0 < start)
    (all : ∀ c ∈ digits, c.isDigit = true) :
    Nat.toDigits 10 (Nat.ofDigitChars 10 digits start) = Nat.toDigits 10 start ++ digits := by
  induction digits generalizing start with
  | nil => rw [Nat.ofDigitChars_nil, List.append_nil]
  | cons c rest ih =>
      have digit := value_of_isDigit (all c List.mem_cons_self)
      have last : Nat.toDigits 10 start ++ [c] =
          Nat.toDigits 10 (10 * start + (c.toNat - '0'.toNat)) := by
        rw [← Nat.toDigits_append_toDigits (by decide) positive digit.1,
          Nat.toDigits_of_lt_base digit.1, digit.2]
      rw [Nat.ofDigitChars_cons,
        ih (by omega) fun d member => all d (List.mem_cons_of_mem c member), ← last,
        List.append_assoc]
      rfl

/-- The decimal spelling of a number is the text that the number is written as. -/
theorem spells_iff {raw : List Char} {n : Nat} : Spells raw n ↔ raw = Nat.toDigits 10 n := by
  constructor
  · rintro ⟨nonempty, digits, leading, rfl⟩
    cases raw with
    | nil => exact absurd rfl nonempty
    | cons c rest =>
        by_cases zero : c = '0'
        · subst zero
          rw [leading rfl]
          rfl
        · have digit := value_of_isDigit (digits c List.mem_cons_self)
          have positive : 0 < c.toNat - '0'.toNat := by
            rw [Nat.pos_iff_ne_zero]
            intro none
            exact zero (digit.2.symm.trans (Nat.digitChar_eq_zero.mpr none))
          rw [Nat.ofDigitChars_cons, Nat.mul_zero, Nat.zero_add, toDigits_ofDigitChars positive
            fun d member => digits d (List.mem_cons_of_mem c member),
            Nat.toDigits_of_lt_base digit.1, digit.2]
          rfl
  · rintro rfl
    refine ⟨Nat.toDigits_ne_nil, fun _ => Numeral.isDigit_of_mem_toDigits, ?_,
      Nat.ofDigitChars_ten_toDigits⟩
    intro zero
    rcases Nat.eq_zero_or_pos n with rfl | positive
    · rfl
    · exact absurd zero (Numeral.head?_toDigits_ne positive)

/-- A step is an index exactly when its text is the decimal spelling of a word. -/
theorem parse_eq_index_iff {raw : List Char} {n : Nat} :
    parse raw = .index n ↔ Spells raw n ∧ n < UInt64.size := by
  unfold parse
  dsimp only
  split
  · rename_i canonical
    rw [Segment.index.injEq]
    constructor
    · rintro rfl
      exact ⟨spells_iff.mpr canonical.2.symm, canonical.1⟩
    · rintro ⟨spelled, _⟩
      exact spelled.value
  · rename_i other
    constructor
    · intro same
      cases same
    · rintro ⟨spelled, small⟩
      rw [spelled.value] at other
      exact absurd ⟨small, (spells_iff.mp spelled).symm⟩ other

theorem parse_cases (raw : List Char) :
    (∃ n, parse raw = .index n) ∨ parse raw = .key (String.ofList raw) := by
  unfold parse
  dsimp only
  split
  · exact Or.inl ⟨_, rfl⟩
  · exact Or.inr rfl

/-- A number with one more digit, if it still fits a word. -/
def pushDigit (value : Nat) (c : Char) : Option Nat :=
  if c.isDigit then
    let next := value * 10 + (c.toNat - '0'.toNat)
    if next < UInt64.size then some next else none
  else none

/-- A text without the plus sign in front of it. -/
def unsigned : List Char → List Char
  | '+' :: rest => rest
  | raw => raw

/-- Reads a word. A plus sign may stand in front, and zeros in front count for nothing. -/
def word? (raw : List Char) : Option Nat :=
  if unsigned raw = [] then none else (unsigned raw).foldlM pushDigit 0

/-- Reads a step by way of a word: it is an index if the word is written as the text was. -/
def reread (raw : List Char) : Segment :=
  match word? raw with
  | some n => if n.repr.toList = raw then .index n else .key (String.ofList raw)
  | none => .key (String.ofList raw)

/-- A number that does not fit is never mended by the digits behind it. -/
theorem foldlM_pushDigit_eq_some_iff {start n : Nat} {digits : List Char}
    (fits : start < UInt64.size) :
    digits.foldlM pushDigit start = some n ↔
      (∀ c ∈ digits, c.isDigit = true) ∧ Nat.ofDigitChars 10 digits start = n ∧
        n < UInt64.size := by
  induction digits generalizing start with
  | nil =>
      simp only [List.foldlM_nil, Option.pure_def, Option.some.injEq, List.not_mem_nil,
        false_implies, implies_true, Nat.ofDigitChars_nil, true_and]
      exact ⟨fun same => ⟨same, same ▸ fits⟩, And.left⟩
  | cons c rest ih =>
      rw [List.foldlM_cons, pushDigit, List.forall_mem_cons, Nat.ofDigitChars_cons]
      by_cases digit : c.isDigit = true
      · rw [if_pos digit, Nat.mul_comm start 10]
        by_cases room : 10 * start + (c.toNat - '0'.toNat) < UInt64.size
        · rw [if_pos room]
          simp only [digit, true_and]
          exact ih room
        · rw [if_neg room]
          have grown := le_ofDigitChars rest (10 * start + (c.toNat - '0'.toNat))
          constructor
          · intro read
            cases read
          · rintro ⟨_, same, small⟩
            omega
      · rw [if_neg digit]
        constructor
        · intro read
          cases read
        · rintro ⟨⟨here, _⟩, _⟩
          exact absurd here digit

theorem lt_of_word? {raw : List Char} {n : Nat} (read : word? raw = some n) : n < UInt64.size := by
  unfold word? at read
  split at read
  · cases read
  · exact ((foldlM_pushDigit_eq_some_iff (by decide)).mp read).2.2

theorem unsigned_of_spells {raw : List Char} {n : Nat} (spelled : Spells raw n) :
    unsigned raw = raw := by
  unfold unsigned
  split
  · exact absurd (spelled.digits '+' List.mem_cons_self) (by decide)
  · rfl

/-- The proper spelling of a word is read as that word. -/
theorem word?_of_spells {raw : List Char} {n : Nat} (spelled : Spells raw n)
    (small : n < UInt64.size) : word? raw = some n := by
  rw [word?, unsigned_of_spells spelled, if_neg spelled.nonempty]
  exact (foldlM_pushDigit_eq_some_iff (by decide)).mpr ⟨spelled.digits, spelled.value, small⟩

/-- Steps may be read by way of words. -/
theorem parse_eq_reread (raw : List Char) : parse raw = reread raw := by
  rcases parse_cases raw with ⟨n, index⟩ | key
  · obtain ⟨spelled, small⟩ := parse_eq_index_iff.mp index
    have again : n.repr.toList = raw := by rw [Nat.toList_repr, spells_iff.mp spelled]
    rw [index, reread, word?_of_spells spelled small]
    dsimp only
    rw [if_pos again]
  · rw [key]
    unfold reread
    split
    · rename_i n read
      split
      · rename_i again
        -- a word that is written as it was read has its proper spelling, which is no key
        have spelled : Spells raw n := spells_iff.mpr (by rw [← Nat.toList_repr, again])
        have index := parse_eq_index_iff.mpr ⟨spelled, lt_of_word? read⟩
        rw [key] at index
        cases index
      · rfl
    · rfl

/-- What a step is to the text it has been read from: an index where the text spells a word, the
name of that text on every object, and what reading a word and writing it again makes of it. -/
structure Reads (step : Segment) (raw : List Char) : Prop where
  index_iff : ∀ n, step = .index n ↔ Spells raw n ∧ n < UInt64.size
  text : step.text = String.ofList raw
  member : ∀ members, (Json.obj members).child? step = Members.get? members (String.ofList raw)
  again : step = reread raw

theorem reads_parse (raw : List Char) : (parse raw).Reads raw := by
  have name : (parse raw).text = String.ofList raw := by
    rw [← String.toList_inj, toList_text_parse, String.toList_ofList]
  refine ⟨fun n => parse_eq_index_iff, name, fun members => ?_, parse_eq_reread raw⟩
  rw [← name]
  rfl

end Segment

/-- A path that has been read is written as the text it was read from, so two texts never give one
path. It has no step if that text is empty and one more than dots otherwise, and its steps are what
the parts between the dots spell: indices where they are the decimal spellings of words and keys
everywhere else, with the part itself for their name. -/
theorem paths_are_read_without_loss :
    (∀ raw, (Path.parse raw).text = raw) ∧
    (∀ raw other, Path.parse raw = Path.parse other → raw = other) ∧
    (∀ raw, (Path.parse raw).length = if raw = "" then 0 else raw.toList.count '.' + 1) ∧
    (∀ raw, raw ≠ "" → List.Forall₂ Segment.Reads (Path.parse raw) (raw.toList.splitOn '.')) := by
  refine ⟨Path.text_parse, ?_, Path.length_parse, ?_⟩
  · intro raw other same
    rw [← Path.text_parse raw, same, Path.text_parse]
  · intro raw nonempty
    rw [Path.parse, if_neg nonempty, List.forall₂_map_left_iff, List.forall₂_same]
    exact fun part _ => Segment.reads_parse part

/-- A sign, a zero in front and a number of `2 ^ 64` make keys, and so does an empty part. -/
theorem only_the_greatest_word_is_an_index :
    let raw := "+5.01..18446744073709551616.18446744073709551615"
    raw ≠ "" ∧
      Path.parse raw =
        [.key "+5", .key "01", .key "", .key "18446744073709551616",
          .index 18446744073709551615] ∧
      (Path.parse raw).text = raw ∧ (Path.parse raw).length = 5 ∧
      List.Forall₂ Segment.Reads (Path.parse raw) (raw.toList.splitOn '.') := by
  intro raw
  obtain ⟨written, _, steps, reads⟩ := paths_are_read_without_loss
  have nonempty : raw ≠ "" := by decide
  have parsed : Path.parse raw = [.key "+5", .key "01", .key "", .key "18446744073709551616",
      .index 18446744073709551615] := by decide
  have five : (if raw = "" then 0 else raw.toList.count '.' + 1) = 5 := by decide
  exact ⟨nonempty, parsed, written raw, (steps raw).trans five, reads raw nonempty⟩

end RichMessage
