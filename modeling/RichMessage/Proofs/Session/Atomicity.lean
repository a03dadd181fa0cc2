import RichMessage.Proofs.Session.Failures
import RichMessage.Proofs.Session.InPlace

set_option autoImplicit false

namespace RichMessage

namespace Session

variable {σ : Type} [IdSource σ]

/-- An operation fails in these situations and in no others, and then nothing has happened. -/
theorem inPlace_eq_error_iff {session left : Session σ} {operation : Operation}
    {reason : SessionError} :
    operation.inPlace.run session = .error reason left ↔
      Fails session operation reason ∧ left = session := by
  rw [run_inPlace]
  constructor
  · intro failed
    cases performed : session.perform operation with
    | ok answer =>
        rw [performed] at failed
        cases failed
    | error other =>
        rw [performed] at failed
        cases failed
        exact ⟨fails_of_perform performed, rfl⟩
  · rintro ⟨fails, rfl⟩
    rw [perform_of_fails fails]
    rfl

theorem inPlace_eq_ok_iff {session next : Session σ} {operation : Operation} {reply : Reply} :
    operation.inPlace.run session = .ok reply next ↔
      session.perform operation = .ok (reply, next) := by
  rw [run_inPlace]
  rcases session.perform operation with reason | ⟨answer, after⟩
  · simp [leave]
  · simp [leave]

theorem mutate_of_inPlace_eq_ok {session next : Session σ} {mutation : Mutation}
    {created : Option String}
    (accepted : (Operation.mutate mutation).inPlace.run session = .ok (.created created) next) :
    session.mutate mutation = .ok (created, next) := by
  have performed := inPlace_eq_ok_iff.mp accepted
  simp only [perform] at performed
  cases attempt : session.mutate mutation with
  | error reason =>
      rw [attempt] at performed
      cases performed
  | ok answer =>
      rw [attempt] at performed
      cases performed
      rfl

omit [IdSource σ] in
theorem left_of_saving_eq_error {session left : Session σ} {files : FileTree} {path : String}
    {reason : SessionError} (failed : (saving files path).run session = .error reason left) :
    left = session := by
  rw [run_saving] at failed
  cases saved : session.save files path with
  | ok files =>
      rw [saved] at failed
      cases failed
  | error other =>
      rw [saved] at failed
      cases failed
      rfl

/-- An operation that fails leaves the session as it was, a file that cannot be written included. An
accepted mutation that leaves the panels equal leaves everything as it was, and one that changes
them is one step of the history, which can be taken back and made again. -/
theorem failures_vanish_and_changes_are_one_step (options : SessionOptions) (source : σ)
    (operations : List Operation) :
    let session := (create options source).run operations
    (∀ operation reason left, operation.inPlace.run session = .error reason left ↔
      Fails session operation reason ∧ left = session) ∧
    (∀ files path reason left,
      (saving files path).run session = .error reason left → left = session) ∧
    ∀ mutation created next,
      (Operation.mutate mutation).inPlace.run session = .ok (.created created) next →
      session.raw = none ∧
      (next.panels = session.panels → next = session) ∧
      (next.panels ≠ session.panels →
        next.history.past = History.newest options.historyLimit.toNat
          (⟨session.panels, mutation.description⟩ :: session.history.past) ∧
        next.history.future = [] ∧ next.raw = none ∧
        ∃ undone, Operation.undo.inPlace.run next = .ok (.done true) undone ∧
          undone.panels = session.panels ∧
          Operation.redo.inPlace.run undone = .ok (.done true) next) := by
  intro session
  have limit : session.history.limit = options.historyLimit.toNat :=
    limit_run_create options source operations
  have bounded : session.history.Bounded := bounded_run_create options source operations
  refine ⟨fun _ _ _ => inPlace_eq_error_iff, fun _ _ _ _ => left_of_saving_eq_error, ?_⟩
  intro mutation created next accepted
  obtain ⟨blocks, same | ⟨changed, recorded⟩⟩ := mutate_cases (mutate_of_inPlace_eq_ok accepted)
  · exact ⟨blocks, fun _ => same, fun changed => absurd (congrArg Session.panels same) changed⟩
  · have history : next.history =
        session.history.record session.panels mutation.description := by rw [recorded]
    have left : next.raw = none := by
      rw [recorded]
      exact blocks
    obtain ⟨undone, back, restored, again⟩ := undo_of_record left history
    refine ⟨blocks, fun same => absurd same changed, fun _ => ⟨?_, ?_, left, undone,
      inPlace_eq_ok_iff.mpr back, restored, inPlace_eq_ok_iff.mpr again⟩⟩
    · rw [history, History.past_record bounded, limit]
    · rw [history]
      rfl

/-- The last panel cannot be removed, nothing can be written into a directory that is missing, a
block that moves to its own place changes nothing, and a block that is removed comes back. -/
theorem failure_vanishes_and_removal_is_one_step :
    let session := (create {} ({ seed := "p" } : Sequence)).run
      [.mutate (.addBlock "p-1" .title none)]
    let removal : Mutation := .removeBlock "p-1" "p-2"
    (Operation.mutate (.removePanel "p-1")).inPlace.run session =
      .error (.mutation .lastPanel) session ∧
      (∃ left, (saving FileTree.empty "missing/message.json").run session =
        .error (.file .notFound) left ∧ left = session) ∧
      (∃ next, (Operation.mutate (.moveBlock "p-1" 0 0)).inPlace.run session =
        .ok (.created none) next ∧ next.panels = session.panels ∧ next = session) ∧
      ∃ next, (Operation.mutate removal).inPlace.run session = .ok (.created none) next ∧
        next.panels ≠ session.panels ∧ next.history.past.length = 2 ∧
        ∃ undone, Operation.undo.inPlace.run next = .ok (.done true) undone ∧
          undone.panels = session.panels ∧
          Operation.redo.inPlace.run undone = .ok (.done true) next := by
  intro session removal
  obtain ⟨failures, unsaved, changes⟩ := failures_vanish_and_changes_are_one_step {}
    ({ seed := "p" } : Sequence) [.mutate (.addBlock "p-1" .title none)]
  have last : Fails session (.mutate (.removePanel "p-1")) (.mutation .lastPanel) :=
    .refused (by decide +kernel) rfl
  have missing : (saving FileTree.empty "missing/message.json").run session =
      .error (.file .notFound) session := rfl
  have moved : (Operation.mutate (.moveBlock "p-1" 0 0)).inPlace.run session =
      .ok (.created none) (session.after (.mutate (.moveBlock "p-1" 0 0))) := rfl
  have removed : (Operation.mutate removal).inPlace.run session =
      .ok (.created none) (session.after (.mutate removal)) := rfl
  have same : (session.after (.mutate (.moveBlock "p-1" 0 0))).panels = session.panels := by
    decide +kernel
  have changed : (session.after (.mutate removal)).panels ≠ session.panels := by decide +kernel
  obtain ⟨_, still, _⟩ := changes _ _ _ moved
  obtain ⟨_, _, step⟩ := changes _ _ _ removed
  obtain ⟨past, _, _, undone, back, restored, again⟩ := step changed
  refine ⟨(failures _ _ _).mpr ⟨last, rfl⟩, ⟨_, missing, unsaved _ _ _ _ missing⟩,
    ⟨_, moved, same, still same⟩, _, removed, changed, ?_, undone, back, restored, again⟩
  rw [past]
  rfl

end Session

end RichMessage
