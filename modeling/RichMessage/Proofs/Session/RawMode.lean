import RichMessage.Proofs.Session.Failures

set_option autoImplicit false

namespace RichMessage

def TreeEditor.run (editor : TreeEditor) (steps : List EditorStep) : TreeEditor :=
  steps.foldl (fun editor step => (editor.perform step).2) editor

namespace Operation

/-- What may be tried while raw edits are pending without leaving raw mode: steps in the editor,
going into raw mode again, what needs the panels, and loading something that is not a document. -/
def Pending : Operation → Prop
  | .raw _ | .enterRaw | .mutate _ | .undo | .redo => True
  | .loadRead read => ∀ text, read = .ok text → Json.parse? text = none
  | .load _ | .reset | .commitRaw | .discardRaw => False

/-- The step in the editor, if the operation is one. -/
def editorStep? : Operation → Option EditorStep
  | .raw step => some step
  | _ => none

end Operation

namespace Session

variable {σ : Type} [IdSource σ]

theorem after_loadRead_of_unparsed (session : Session σ) {read : Except FileError String}
    (unparsed : ∀ text, read = .ok text → Json.parse? text = none) :
    session.after (.loadRead read) = session := by
  cases read with
  | error reason => exact after_of_fails .unreadable
  | ok text => exact after_of_fails (.unparsed (unparsed text rfl))

/-- In raw mode a pending operation is a step in the editor or changes nothing. -/
theorem after_pending {session : Session σ} {editor : TreeEditor} {operation : Operation}
    (editing : session.raw = some editor) (pending : operation.Pending) :
    session.after operation =
      { session with raw := some (editor.run operation.editorStep?.toList) } := by
  have unchanged : session = { session with raw := some editor } := by rw [← editing]
  have locked : session.isRaw = true := by rw [isRaw, editing, Option.isSome_some]
  cases operation with
  | mutate mutation =>
      rw [after_of_fails (.mutateLocked locked)]
      exact unchanged
  | undo =>
      rw [after_of_fails (.undoLocked locked)]
      exact unchanged
  | redo =>
      rw [after_of_fails (.redoLocked locked)]
      exact unchanged
  | enterRaw =>
      simp only [after, perform, enterRaw, rawEditor, editing, Option.getD_some]
      rfl
  | raw step =>
      simp only [after, perform, rawStep, editing]
      rfl
  | loadRead read =>
      rw [after_loadRead_of_unparsed session pending]
      exact unchanged
  | load | reset | commitRaw | discardRaw => exact pending.elim

theorem run_pending {session : Session σ} {editor : TreeEditor} {steps : List Operation}
    (editing : session.raw = some editor) (pending : ∀ operation ∈ steps, operation.Pending) :
    session.run steps =
      { session with raw := some (editor.run (steps.filterMap Operation.editorStep?)) } := by
  induction steps generalizing session editor with
  | nil =>
      rw [run_nil]
      change session = { session with raw := some editor }
      rw [← editing]
  | cons operation rest ih =>
      have here := after_pending editing (pending operation List.mem_cons_self)
      have later := fun other inside => pending other (List.mem_cons_of_mem operation inside)
      rw [run_cons, here, ih rfl later, List.filterMap_cons]
      cases operation.editorStep? <;> rfl

/-- While raw edits are pending, the session is the one before raw mode with an editor in which
nothing but the steps in the editor has been done. -/
theorem run_enterRaw {session : Session σ} {steps : List Operation} (blocks : session.raw = none)
    (pending : ∀ operation ∈ steps, operation.Pending) :
    session.run (.enterRaw :: steps) =
      { session with
        raw := some
          ((TreeEditor.create session.document.toNode session.options.historyLimit.toNat).run
            (steps.filterMap Operation.editorStep?)) } := by
  have entered : (session.after .enterRaw).raw =
      some (.create session.document.toNode session.options.historyLimit.toNat) := by
    simp only [after, perform, enterRaw, rawEditor, blocks, Option.getD_none]
  rw [run_cons, run_pending entered pending]
  rfl

/-- Committing replaces the panels by those of the edited document, or by an empty one if it has
none, and records the panels before as one change. -/
theorem commitRaw_of_editor {session : Session σ} {editor : TreeEditor}
    (editing : session.raw = some editor) :
    ∃ committed, session.perform .commitRaw = .ok (.nothing, committed) ∧
      ((Panel.ofNode editor.root session.source).1 ≠ [] →
        committed.panels = (Panel.ofNode editor.root session.source).1) ∧
      ((Panel.ofNode editor.root session.source).1 = [] →
        committed.panels = [(Panel.empty session.options.theme session.source).1]) ∧
      committed.raw = none ∧
      committed.history = session.history.record session.panels "Raw edit" := by
  refine ⟨{ session.withDocument editor.root with
    history := session.history.record session.panels "Raw edit", raw := none },
    ?_, ?_, ?_, rfl, rfl⟩
  · simp only [perform, commitRaw, editing]
    rfl
  · intro found
    have drafts : Draft.ofNode editor.root ≠ [] := fun none =>
      found ((Draft.numberAll_eq_nil_iff _ _).mpr none)
    simp only [withDocument, draftsOf]
    cases bubbles : Draft.ofNode editor.root with
    | nil => exact absurd bubbles drafts
    | cons first rest => rw [Panel.ofNode, bubbles]
  · intro none
    have drafts : Draft.ofNode editor.root = [] := (Draft.numberAll_eq_nil_iff _ _).mp none
    simp only [withDocument, draftsOf, drafts]
    rfl

/-- Raw mode is a transaction on the panels, their history and the source. -/
theorem raw_mode_commits_or_vanishes (options : SessionOptions) (source : σ)
    (earlier steps : List Operation)
    (blocks : ((create options source).run earlier).raw = none)
    (pending : ∀ operation ∈ steps, operation.Pending) :
    let before := (create options source).run earlier
    let editor := (TreeEditor.create before.document.toNode options.historyLimit.toNat).run
      (steps.filterMap Operation.editorStep?)
    let during := before.run (.enterRaw :: steps)
    during = { before with raw := some editor } ∧
      (∀ mutation, during.perform (.mutate mutation) = .error .inRawMode) ∧
      during.perform .undo = .error .inRawMode ∧
      during.perform .redo = .error .inRawMode ∧
      during.perform .enterRaw = .ok (.nothing, during) ∧
      during.perform .discardRaw = .ok (.nothing, before) ∧
      ∃ committed, during.perform .commitRaw = .ok (.nothing, committed) ∧
        ((Panel.ofNode editor.root before.source).1 ≠ [] →
          committed.panels = (Panel.ofNode editor.root before.source).1) ∧
        ((Panel.ofNode editor.root before.source).1 = [] →
          committed.panels = [(Panel.empty options.theme before.source).1]) ∧
        committed.raw = none ∧
        committed.history.past = History.newest options.historyLimit.toNat
          (⟨before.panels, "Raw edit"⟩ :: before.history.past) ∧
        committed.history.future = [] ∧
        ∃ undone, committed.perform .undo = .ok (.done true, undone) ∧
          undone.panels = before.panels := by
  intro before editor during
  have made : before.options = options := options_run_create options source earlier
  have limit : before.history.limit = options.historyLimit.toNat :=
    limit_run_create options source earlier
  have bounded : before.history.Bounded := bounded_run_create options source earlier
  have state : during = { before with raw := some editor } := by
    have begun : editor =
        (TreeEditor.create before.document.toNode before.options.historyLimit.toNat).run
          (steps.filterMap Operation.editorStep?) := by
      rw [made]
    rw [begun]
    exact run_enterRaw blocks pending
  have locked : during.isRaw = true := by rw [state]; rfl
  have editing : during.raw = some editor := by rw [state]
  obtain ⟨committed, performed, found, empty, left, recorded⟩ := commitRaw_of_editor editing
  have same : during.history = before.history ∧ during.panels = before.panels ∧
      during.source = before.source ∧ during.options = options := by
    rw [state]
    exact ⟨rfl, rfl, rfl, made⟩
  obtain ⟨history, panels, drawn, settings⟩ := same
  rw [drawn] at found empty
  rw [settings] at empty
  rw [history, panels] at recorded
  obtain ⟨undone, back, restored, _⟩ := undo_of_record left recorded
  refine ⟨state, fun _ => perform_of_fails (.mutateLocked locked),
    perform_of_fails (.undoLocked locked), perform_of_fails (.redoLocked locked), ?_, ?_,
    committed, performed, found, empty, left, ?_, ?_, undone, back, restored⟩
  · simp only [perform, enterRaw, rawEditor, editing, Option.getD_some]
    rw [← editing]
  · have whole : { before with raw := none } = before := by rw [← blocks]
    simp only [perform, discardRaw, locked, if_true, Except.map]
    rw [state, whole]
  · rw [recorded, History.past_record bounded, limit]
  · rw [recorded]
    rfl

/-- The header is taken out and put back, panels are asked for in vain, and a file is missing. -/
theorem header_edit_commits_or_vanishes :
    let before := (create {} ({ seed := "p" } : Sequence)).run
      [.mutate (.addBlock "p-1" .title none)]
    let steps : List Operation :=
      [.raw (.edit (.remove [.key "header"])), .undo, .raw .undo, .enterRaw,
        .loadRead (.error .notFound), .raw .redo]
    let during := before.run (.enterRaw :: steps)
    before.raw = none ∧ (∀ operation ∈ steps, operation.Pending) ∧
      during.perform .discardRaw = .ok (.nothing, before) ∧
      ∃ committed, during.perform .commitRaw = .ok (.nothing, committed) ∧
        committed.history.past.length = 2 ∧
        ∃ undone, committed.perform .undo = .ok (.done true, undone) ∧
          undone.panels = before.panels := by
  intro before steps during
  have blocks : before.raw = none := rfl
  have pending : ∀ operation ∈ steps, operation.Pending := by
    simp [steps, Operation.Pending]
  obtain ⟨_, _, _, _, _, discarded, committed, performed, _, _, _, past, _, undone, back,
      restored⟩ :=
    raw_mode_commits_or_vanishes {} ({ seed := "p" } : Sequence)
      [.mutate (.addBlock "p-1" .title none)] steps blocks pending
  have length : committed.history.past.length = 2 := by
    rw [past]
    rfl
  exact ⟨blocks, pending, discarded, committed, performed, length, undone, back, restored⟩

end Session

end RichMessage
