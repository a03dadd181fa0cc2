import Mathlib.Data.List.Nodup
import RichMessage.Ident.Clock
import RichMessage.Proofs.Ident.Supply

set_option autoImplicit false

namespace RichMessage.Clock

/-- The digits of base 36 in the order of their values. -/
def alphabet : List Char :=
  ['0', '1', '2', '3', '4', '5', '6', '7', '8', '9', 'a', 'b', 'c', 'd', 'e', 'f', 'g', 'h', 'i',
    'j', 'k', 'l', 'm', 'n', 'o', 'p', 'q', 'r', 's', 't', 'u', 'v', 'w', 'x', 'y', 'z']

/-- The number that digits of base 36 spell. -/
def valueOf (digits : List Char) : Nat :=
  digits.foldl (fun value c => value * 36 + alphabet.idxOf c) 0

/-- A number in base 36: one digit or more, and no zero in front of others. -/
structure IsBase36 (digits : List Char) : Prop where
  nonempty : digits ≠ []
  known : ∀ c ∈ digits, c ∈ alphabet
  leading : digits.head? = some '0' → digits = ['0']

/-- The third part of an identifier without its last eight characters, read in base 36. -/
def countOf? (id : String) : Option Nat :=
  match id.toList.splitOn '-' with
  | [_, _, last] => some (valueOf (last.take (last.length - 8)))
  | _ => none

/-- The form of an identifier: a fixed word, a number in base 36, and another such number with eight
lower-case hexadecimal digits right behind it, all three set apart by dashes. -/
def IsWellFormed (id : String) : Prop :=
  ∃ time count check : List Char,
    id.toList.splitOn '-' = ["block".toList, time, count ++ check] ∧
      IsBase36 time ∧ IsBase36 count ∧ check.length = 8 ∧
      ∀ c ∈ check, c ∈ alphabet.take 16

theorem digit_eq {n : Nat} (small : n < 36) :
    digit n ∈ alphabet ∧ alphabet.idxOf (digit n) = n ∧ (digit n = '0' → n = 0) := by
  have each : ∀ m < 36, digit m ∈ alphabet ∧ alphabet.idxOf (digit m) = m ∧
      (digit m = '0' → m = 0) := by decide
  exact each n small

theorem valueOf_append (front : List Char) (c : Char) :
    valueOf (front ++ [c]) = valueOf front * 36 + alphabet.idxOf c := by
  rw [valueOf, List.foldl_append]
  rfl

/-- A number is read back from its digits. -/
theorem valueOf_base36 (n : Nat) : valueOf (base36 n) = n := by
  induction n using base36.induct with
  | case1 n small =>
      rw [base36, if_pos small]
      exact (Nat.zero_add _).trans (digit_eq small).2.1
  | case2 n large ih =>
      have last := (digit_eq (Nat.mod_lt n (by decide : 0 < 36))).2.1
      rw [base36, if_neg large, valueOf_append, ih, last]
      omega

theorem mem_alphabet_of_mem_base36 {n : Nat} {c : Char} (member : c ∈ base36 n) :
    c ∈ alphabet := by
  induction n using base36.induct with
  | case1 n small =>
      rw [base36, if_pos small, List.mem_singleton] at member
      exact member ▸ (digit_eq small).1
  | case2 n large ih =>
      rw [base36, if_neg large, List.mem_append, List.mem_singleton] at member
      rcases member with front | rfl
      · exact ih front
      · exact (digit_eq (Nat.mod_lt n (by decide))).1

theorem base36_ne_nil (n : Nat) : base36 n ≠ [] := by
  rw [base36]
  split
  · exact List.cons_ne_nil _ _
  · exact List.append_ne_nil_of_right_ne_nil _ (List.cons_ne_nil _ _)

/-- Only zero has a zero in front. -/
theorem eq_zero_of_head?_base36 {n : Nat} (zero : (base36 n).head? = some '0') : n = 0 := by
  induction n using base36.induct with
  | case1 n small =>
      rw [base36, if_pos small, List.head?_cons] at zero
      exact (digit_eq small).2.2 (Option.some.inj zero)
  | case2 n large ih =>
      -- the front has the same first digit and is no zero
      rw [base36, if_neg large, List.head?_append_of_ne_nil _ (base36_ne_nil _)] at zero
      have front := ih zero
      omega

theorem isBase36_base36 (n : Nat) : IsBase36 (base36 n) := by
  refine ⟨base36_ne_nil n, fun _ => mem_alphabet_of_mem_base36, fun zero => ?_⟩
  rw [eq_zero_of_head?_base36 zero, base36, if_pos (by decide)]
  rfl

theorem length_hex8 (word : UInt32) : (hex8 word).length = 8 := by
  rw [hex8, List.length_map, List.length_range]

/-- The digits of a checksum are the first sixteen of base 36. -/
theorem mem_of_mem_hex8 {word : UInt32} {c : Char} (member : c ∈ hex8 word) :
    c ∈ alphabet.take 16 := by
  have each : ∀ n < 16, digit n ∈ alphabet.take 16 := by decide
  obtain ⟨place, _, rfl⟩ := List.mem_map.mp member
  exact each _ (Nat.mod_lt _ (by decide))

theorem toList_compose (millis count : UInt64) (check : UInt32) :
    (compose millis count check).toList =
      "block".toList ++ '-' :: (base36 millis.toNat ++ '-' ::
        (base36 count.toNat ++ hex8 check)) := by
  have spelled : (compose millis count check).toList = "block-".toList ++ base36 millis.toNat ++
      '-' :: base36 count.toNat ++ hex8 check := String.toList_ofList
  have dashed : "block-".toList = "block".toList ++ ['-'] := rfl
  rw [spelled, dashed]
  simp only [List.append_assoc, List.cons_append, List.nil_append]

theorem not_mem_of_known {digits : List Char} (known : ∀ c ∈ digits, c ∈ alphabet) :
    '-' ∉ digits := by
  intro member
  exact absurd (known '-' member) (by decide)

/-- The dashes of an identifier stand only between its parts. -/
theorem splitOn_compose (millis count : UInt64) (check : UInt32) :
    (compose millis count check).toList.splitOn '-' =
      ["block".toList, base36 millis.toNat, base36 count.toNat ++ hex8 check] := by
  have hexadecimal : ∀ c ∈ hex8 check, c ∈ alphabet :=
    fun _ member => List.mem_of_mem_take (mem_of_mem_hex8 member)
  have first : '-' ∉ "block".toList := by decide
  have second : '-' ∉ base36 millis.toNat := not_mem_of_known (isBase36_base36 _).known
  have third : '-' ∉ base36 count.toNat ++ hex8 check := by
    rw [List.mem_append, not_or]
    exact ⟨not_mem_of_known (isBase36_base36 _).known, not_mem_of_known hexadecimal⟩
  rw [toList_compose, List.splitOn_append_cons_self_of_not_mem first,
    List.splitOn_append_cons_self_of_not_mem second, List.splitOn_eq_singleton third]

theorem isWellFormed_compose (millis count : UInt64) (check : UInt32) :
    IsWellFormed (compose millis count check) :=
  ⟨_, _, _, splitOn_compose millis count check, isBase36_base36 _, isBase36_base36 _,
    length_hex8 check, fun _ => mem_of_mem_hex8⟩

/-- The count stands before the last eight characters. -/
theorem countOf?_compose (millis count : UInt64) (check : UInt32) :
    countOf? (compose millis count check) = some count.toNat := by
  have before : (base36 count.toNat ++ hex8 check).length - 8 = (base36 count.toNat).length := by
    rw [List.length_append, length_hex8]
    omega
  rw [countOf?, splitOn_compose]
  dsimp only
  rw [before, List.take_left, valueOf_base36]

theorem countOf?_draw (source : ClockSource) :
    countOf? (IdSource.draw source).1 = some source.count.toNat :=
  countOf?_compose _ _ _

theorem isWellFormed_draw (source : ClockSource) : IsWellFormed (IdSource.draw source).1 :=
  isWellFormed_compose _ _ _

/-- Every draw has the next count, until the count has gone round. -/
theorem map_countOf?_issue (n : Nat) (source : ClockSource) :
    (IdSource.issue n source).map countOf? =
      (List.range n).map fun i => some ((source.count.toNat + i) % UInt64.size) := by
  induction n generalizing source with
  | zero => rfl
  | succ n ih =>
      have first : source.count.toNat = (source.count.toNat + 0) % UInt64.size :=
        (Nat.mod_eq_of_lt source.count.toNat_lt).symm
      have next : (IdSource.draw source).2.count.toNat =
          (source.count.toNat + 1) % UInt64.size := UInt64.toNat_add _ _
      rw [IdSource.issue, List.map_cons, countOf?_draw, ih, List.range_succ_eq_map, List.map_cons,
        List.map_map, next, ← first]
      congr 1
      apply List.map_congr_left
      intro i _
      rw [Function.comp_apply, Nat.mod_add_mod, Nat.succ_eq_add_one, Nat.add_right_comm,
        Nat.add_assoc]

theorem nodup_issue_clock {n : Nat} (room : n ≤ UInt64.size) (source : ClockSource) :
    (IdSource.issue n source).Nodup := by
  refine List.Nodup.of_map countOf? ?_
  rw [map_countOf?_issue]
  refine List.Nodup.map_on ?_ List.nodup_range
  intro i inside j otherInside same
  have counts : (source.count.toNat + i) % UInt64.size = (source.count.toNat + j) % UInt64.size :=
    Option.some.inj same
  rw [List.mem_range] at inside otherInside
  simp only [UInt64.size] at room counts
  omega

/-- An identifier from the clock has a fixed form, from which the count can be read, for every time,
count and check. So identifiers of different counts differ, whatever else they are made of: those of
two draws, from any clocks and in any processes, and all those that one process issues before its
count has gone round. -/
theorem clock_identifiers_never_collide :
    (∀ millis count check, IsWellFormed (compose millis count check) ∧
      countOf? (compose millis count check) = some count.toNat) ∧
    (∀ millis count check otherMillis otherCount otherCheck, count ≠ otherCount →
      compose millis count check ≠ compose otherMillis otherCount otherCheck) ∧
    (∀ source : ClockSource, IsWellFormed (IdSource.draw source).1 ∧
      countOf? (IdSource.draw source).1 = some source.count.toNat) ∧
    (∀ source other : ClockSource, source.count ≠ other.count →
      (IdSource.draw source).1 ≠ (IdSource.draw other).1) ∧
    (∀ (source : ClockSource) (n : Nat), n ≤ UInt64.size →
      (IdSource.issue n source).map countOf? =
          (List.range n).map (fun i => some ((source.count.toNat + i) % UInt64.size)) ∧
        (IdSource.issue n source).Nodup) := by
  have apart {first second : String} {count otherCount : UInt64}
      (one : countOf? first = some count.toNat) (other : countOf? second = some otherCount.toNat)
      (differ : count ≠ otherCount) : first ≠ second := by
    rintro rfl
    exact differ (UInt64.toNat_inj.mp (Option.some.inj (one.symm.trans other)))
  refine ⟨fun millis count check => ⟨isWellFormed_compose millis count check,
    countOf?_compose millis count check⟩, ?_, fun source => ⟨isWellFormed_draw source,
    countOf?_draw source⟩, ?_, fun source n room => ⟨map_countOf?_issue n source,
    nodup_issue_clock room source⟩⟩
  · intro millis count check otherMillis otherCount otherCheck
    exact apart (countOf?_compose millis count check)
      (countOf?_compose otherMillis otherCount otherCheck)
  · intro source other
    exact apart (countOf?_draw source) (countOf?_draw other)

/-- A clock that stands still or shows a time before the epoch does no harm, and neither does a
count that is about to go round. -/
theorem identifiers_of_stopped_clock :
    let source : ClockSource := { readings := fun _ => -1, process := 7, count := 35 }
    let last : ClockSource := { readings := fun _ => -1, process := 7, count := -1 }
    source.count ≠ last.count ∧ 3 ≤ UInt64.size ∧
      (IdSource.draw source).1 ≠ (IdSource.draw last).1 ∧
      (IdSource.issue 3 source).map countOf? = [some 35, some 36, some 37] ∧
      (IdSource.issue 3 last).map countOf? = [some 18446744073709551615, some 0, some 1] ∧
      (IdSource.issue 3 source).Nodup ∧ (IdSource.issue 3 last).Nodup := by
  intro source last
  obtain ⟨_, _, _, differ, issued⟩ := clock_identifiers_never_collide
  have counts : source.count ≠ last.count := by decide
  have few : 3 ≤ UInt64.size := by decide
  obtain ⟨rising, once⟩ := issued source 3 few
  obtain ⟨wrapping, onceToo⟩ := issued last 3 few
  exact ⟨counts, few, differ source last counts, rising, wrapping.trans (by decide), once, onceToo⟩

end RichMessage.Clock
