import Mathlib.Data.List.Nodup
import RichMessage.Ident.Basic

set_option autoImplicit false

namespace RichMessage

namespace IdSource

variable {σ : Type} [IdSource σ]

/-- The source after so many draws. -/
def advance : Nat → σ → σ
  | 0, source => source
  | n + 1, source => advance n (draw source).2

/-- The identifiers of the next so many draws, the first one first. -/
def issue : Nat → σ → List String
  | 0, _ => []
  | n + 1, source => (draw source).1 :: issue n (draw source).2

theorem advance_add (m n : Nat) (source : σ) :
    advance (m + n) source = advance n (advance m source) := by
  induction m generalizing source with
  | zero => rw [Nat.zero_add, advance]
  | succ m ih => rw [Nat.succ_add, advance, ih, advance]

theorem issue_add (m n : Nat) (source : σ) :
    issue (m + n) source = issue m source ++ issue n (advance m source) := by
  induction m generalizing source with
  | zero => rw [Nat.zero_add, issue, advance, List.nil_append]
  | succ m ih => rw [Nat.succ_add, issue, ih, issue, advance, List.cons_append]

@[simp] theorem length_issue (n : Nat) (source : σ) : (issue n source).length = n := by
  induction n generalizing source with
  | zero => rfl
  | succ n ih => rw [issue, List.length_cons, ih]

theorem issue_prefix {m n : Nat} (fewer : m ≤ n) (source : σ) :
    issue m source <+: issue n source := by
  obtain ⟨more, rfl⟩ := Nat.exists_eq_add_of_le fewer
  rw [issue_add]
  exact List.prefix_append _ _

end IdSource

/-- A source with a record of the identifiers that it has issued, the first one first. -/
structure Recorder (σ : Type) where
  source : σ
  issued : List String := []

namespace Recorder

variable {σ : Type} [IdSource σ]

instance : IdSource (Recorder σ) where
  draw recorder :=
    let (id, source) := IdSource.draw recorder.source
    (id, { source, issued := recorder.issued ++ [id] })

theorem issue_eq (n : Nat) (recorder : Recorder σ) :
    IdSource.issue n recorder = IdSource.issue n recorder.source := by
  induction n generalizing recorder with
  | zero => rfl
  | succ n ih =>
      rw [IdSource.issue, ih, IdSource.issue]
      rfl

/-- All that is drawn in between is on the record, in the order of the draws. -/
theorem advance_eq (n : Nat) (recorder : Recorder σ) :
    IdSource.advance n recorder =
      { source := IdSource.advance n recorder.source
        issued := recorder.issued ++ IdSource.issue n recorder.source } := by
  induction n generalizing recorder with
  | zero =>
      rw [IdSource.issue, List.append_nil]
      rfl
  | succ n ih =>
      rw [IdSource.advance, ih, IdSource.advance, IdSource.issue]
      simp only [IdSource.draw, List.append_assoc, List.singleton_append]

end Recorder

namespace Sequence

/-- A sequence counts on from the last identifier that it has issued. -/
theorem issue_eq_map_range (seed : String) (drawn : UInt32) (n : Nat)
    (room : drawn.toNat + n < UInt32.size) :
    IdSource.issue n ({ seed, drawn } : Sequence) =
      (List.range n).map fun i => seed ++ "-" ++ (drawn.toNat + 1 + i).repr := by
  induction n generalizing drawn with
  | zero => rfl
  | succ n ih =>
      have next : (drawn + 1).toNat = drawn.toNat + 1 := by
        rw [UInt32.toNat_add]
        exact Nat.mod_eq_of_lt (show drawn.toNat + 1 < UInt32.size by omega)
      have rest := ih (drawn + 1) (by omega)
      rw [List.range_succ_eq_map, List.map_cons, List.map_map, IdSource.issue]
      simp only [IdSource.draw, ident, rest, next, Function.comp_def, Nat.add_zero,
        List.cons.injEq, true_and]
      apply List.map_congr_left
      intro i _
      rw [Nat.succ_eq_add_one, Nat.add_right_comm, Nat.add_assoc _ i]

theorem repr_injective {m n : Nat} (same : m.repr = n.repr) : m = n := by
  have digits : Nat.toDigits 10 m = Nat.toDigits 10 n := by
    rw [← Nat.toList_repr, ← Nat.toList_repr, same]
  rw [← Nat.ofDigitChars_ten_toDigits (n := m), digits, Nat.ofDigitChars_ten_toDigits]

/-- From any count on, a sequence issues no identifier twice before its count runs over. -/
theorem nodup_issue_from (seed : String) (drawn : UInt32) (n : Nat)
    (room : drawn.toNat + n < UInt32.size) :
    (IdSource.issue n ({ seed, drawn } : Sequence)).Nodup := by
  rw [issue_eq_map_range seed drawn n room]
  refine List.Nodup.map ?_ List.nodup_range
  intro i j same
  have counts := repr_injective ((String.append_right_inj _).mp same)
  omega

/-- A sequence never issues an identifier twice before its count runs over. -/
theorem nodup_issue (seed : String) (n : Nat) (room : n < UInt32.size) :
    (IdSource.issue n ({ seed } : Sequence)).Nodup :=
  nodup_issue_from seed 0 n (by simpa using room)

theorem advance_eq (seed : String) (drawn : UInt32) (n : Nat) :
    IdSource.advance n ({ seed, drawn } : Sequence) =
      { seed, drawn := drawn + UInt32.ofNat n } := by
  induction n generalizing drawn with
  | zero => simp [IdSource.advance]
  | succ n ih =>
      have next : drawn + 1 + UInt32.ofNat n = drawn + UInt32.ofNat (n + 1) := by
        rw [UInt32.ofNat_add, UInt32.add_assoc, UInt32.add_comm 1]
        rfl
      rw [IdSource.advance, ← next]
      exact ih (drawn + 1)

end Sequence

end RichMessage
