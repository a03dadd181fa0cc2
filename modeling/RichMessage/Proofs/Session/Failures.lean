import RichMessage.Proofs.Fallible
import RichMessage.Proofs.Session.Histories

set_option autoImplicit false

namespace RichMessage

namespace Session

variable {σ : Type}

theorem fails_of_trade {session : Session σ} {reason : SessionError}
    {found : Option (List Panel × History (List Panel))}
    (failed : session.trade found = .error reason) : session.isRaw ∧ reason = .inRawMode := by
  unfold trade at failed
  split at failed
  · rename_i raw
    cases failed
    exact ⟨raw, rfl⟩
  · split at failed <;> cases failed

variable [IdSource σ]

/-- When an operation fails, and why. -/
inductive Fails (session : Session σ) : Operation → SessionError → Prop
  | mutateLocked {mutation : Mutation} (raw : session.isRaw) :
      Fails session (.mutate mutation) .inRawMode
  | undoLocked (raw : session.isRaw) : Fails session .undo .inRawMode
  | redoLocked (raw : session.isRaw) : Fails session .redo .inRawMode
  | refused {mutation : Mutation} {reason : Refusal} (blocks : ¬ session.isRaw)
      (invalid : mutation.validate session.panels = .error reason) :
      Fails session (.mutate mutation) (.mutation reason)
  | unreadable {reason : FileError} : Fails session (.loadRead (.error reason)) (.file reason)
  | unparsed {text : String} (malformed : Json.parse? text = none) :
      Fails session (.loadRead (.ok text)) .json
  | editWithoutEditor {step : EditorStep} (blocks : ¬ session.isRaw) :
      Fails session (.raw step) .notInRawMode
  | commitWithoutEditor (blocks : ¬ session.isRaw) : Fails session .commitRaw .notInRawMode
  | discardWithoutEditor (blocks : ¬ session.isRaw) : Fails session .discardRaw .notInRawMode

theorem fails_of_mutate {session : Session σ} {mutation : Mutation} {reason : SessionError}
    (failed : session.mutate mutation = .error reason) :
    Fails session (.mutate mutation) reason := by
  unfold mutate at failed
  split at failed
  · rename_i raw
    cases failed
    exact .mutateLocked raw
  · rename_i blocks
    split at failed
    · cases failed
    · rename_i why ran
      cases failed
      exact .refused blocks ((mutation.run_eq_error_iff _ _ why).mp ran)

theorem fails_of_perform {session : Session σ} {operation : Operation} {reason : SessionError}
    (failed : session.perform operation = .error reason) : Fails session operation reason := by
  cases operation with
  | mutate mutation => exact fails_of_mutate (map_eq_error failed)
  | undo =>
      obtain ⟨raw, rfl⟩ := fails_of_trade (map_eq_error failed)
      exact .undoLocked raw
  | redo =>
      obtain ⟨raw, rfl⟩ := fails_of_trade (map_eq_error failed)
      exact .redoLocked raw
  | loadRead read =>
      have refused := map_eq_error failed
      cases read with
      | error why =>
          cases refused
          exact .unreadable
      | ok text =>
          simp only [loadRead, loadText] at refused
          split at refused
          · cases refused
          · rename_i malformed
            cases refused
            exact .unparsed malformed
  | raw step =>
      have refused := map_eq_error failed
      unfold rawStep at refused
      split at refused
      · cases refused
      · rename_i none
        cases refused
        exact .editWithoutEditor (by simp [isRaw, none])
  | commitRaw =>
      have refused := map_eq_error failed
      unfold commitRaw at refused
      split at refused
      · cases refused
      · rename_i none
        cases refused
        exact .commitWithoutEditor (by simp [isRaw, none])
  | discardRaw =>
      have refused := map_eq_error failed
      unfold discardRaw at refused
      split at refused
      · cases refused
      · rename_i blocks
        cases refused
        exact .discardWithoutEditor blocks
  | load | reset | enterRaw => cases failed

theorem perform_of_fails {session : Session σ} {operation : Operation} {reason : SessionError}
    (fails : Fails session operation reason) : session.perform operation = .error reason := by
  cases fails with
  | mutateLocked raw => simp only [perform, mutate, raw, if_true, Except.map]
  | undoLocked raw => simp only [perform, undo, raw, if_true, Except.map]
  | redoLocked raw => simp only [perform, redo, raw, if_true, Except.map]
  | @refused mutation reason blocks invalid =>
      have ran := (mutation.run_eq_error_iff session.panels session.source reason).mpr invalid
      rw [perform, mutate, if_neg blocks, ran]
      rfl
  | unreadable => rfl
  | unparsed malformed => simp only [perform, loadRead, loadText, malformed, Except.map]
  | editWithoutEditor blocks =>
      simp only [perform, rawStep, raw_eq_none_of_not_isRaw blocks, Except.map]
  | commitWithoutEditor blocks =>
      simp only [perform, commitRaw, raw_eq_none_of_not_isRaw blocks, Except.map]
  | discardWithoutEditor blocks =>
      rw [perform, discardRaw, if_neg blocks]
      rfl

theorem after_of_fails {session : Session σ} {operation : Operation} {reason : SessionError}
    (fails : Fails session operation reason) : session.after operation = session := by
  simp only [after, perform_of_fails fails]

end Session

end RichMessage
