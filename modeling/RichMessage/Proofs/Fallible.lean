set_option autoImplicit false

namespace RichMessage

variable {ε α β : Type}

theorem bind_eq_ok_iff {first : Except ε α} {next : α → Except ε β} {result : β} :
    first >>= next = .ok result ↔ ∃ value, first = .ok value ∧ next value = .ok result := by
  constructor
  · intro done
    cases first with
    | error reason => cases done
    | ok value => exact ⟨value, rfl, done⟩
  · intro parts
    obtain ⟨value, given, done⟩ := parts
    rw [given]
    exact done

theorem map_eq_error {f : α → β} {answer : Except ε α} {reason : ε}
    (failed : answer.map f = .error reason) : answer = .error reason := by
  cases answer with
  | error other =>
      cases failed
      rfl
  | ok value => cases failed

end RichMessage
