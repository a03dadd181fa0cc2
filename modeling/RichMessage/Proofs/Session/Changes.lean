import RichMessage.Proofs.Panel.Identifiers
import RichMessage.Session.Operation

set_option autoImplicit false

namespace RichMessage

namespace History

variable {α : Type}

def states (history : History α) : List α :=
  (history.past ++ history.future).map Snapshot.state

theorem trim_subset (limit : Nat) (past : List (Snapshot α)) : trim limit past ⊆ past := by
  unfold trim
  split
  · exact List.dropLast_subset past
  · exact List.Subset.refl past

theorem states_record_subset (history : History α) (previous : α) (description : String) :
    (history.record previous description).states ⊆ previous :: history.states := by
  intro state present
  simp only [states, record, List.append_nil, List.mem_map] at present
  obtain ⟨snapshot, inside, rfl⟩ := present
  rcases List.mem_cons.mp (trim_subset _ _ inside) with rfl | older
  · exact List.mem_cons_self
  · exact List.mem_cons_of_mem _ (List.mem_map_of_mem (List.mem_append_left _ older))

/-- Undoing goes to a snapshot and leaves the current state behind as one. -/
theorem states_of_undo {history rest : History α} {current state : α}
    (undone : history.undo? current = some (state, rest)) :
    state ∈ history.states ∧ rest.states ⊆ current :: history.states := by
  unfold undo? at undone
  split at undone
  · cases undone
  · rename_i latest past earlier
    cases undone
    constructor
    · simp only [states, earlier, List.cons_append, List.map_cons, List.mem_cons, true_or]
    · intro other present
      simp only [states, earlier, List.map_append, List.map_cons, List.mem_append,
        List.mem_cons] at present ⊢
      grind

/-- Redoing goes to a snapshot and leaves the current state behind as one. -/
theorem states_of_redo {history rest : History α} {current state : α}
    (redone : history.redo? current = some (state, rest)) :
    state ∈ history.states ∧ rest.states ⊆ current :: history.states := by
  unfold redo? at redone
  split at redone
  · cases redone
  · rename_i next future later
    cases redone
    constructor
    · simp only [states, later, List.map_append, List.map_cons, List.mem_append, List.mem_cons,
        true_or, or_true]
    · intro other present
      simp only [states, later, List.map_append, List.map_cons, List.mem_append,
        List.mem_cons] at present ⊢
      grind

end History

namespace Session

variable {σ : Type} [IdSource σ]

/-- The panels as they are now and as they are in every snapshot. -/
def states (session : Session σ) : List (List Panel) :=
  session.panels :: session.history.states

/-- The drafts that an operation puts in the place of all panels. -/
def replacement? (session : Session σ) : Operation → Option (List Draft)
  | .load document => some (draftsOf session.options document)
  | .loadRead (.ok text) => (Json.parse? text).map (draftsOf session.options)
  | .reset => some [.empty session.options.theme]
  | .commitRaw => session.raw.map fun raw => draftsOf session.options raw.root
  | _ => none

/-- How many identifiers an operation draws. -/
def draws (session : Session σ) (operation : Operation) : Nat :=
  match session.replacement? operation, operation with
  | some drafts, _ => Draft.totalSize drafts
  | none, .mutate mutation =>
    match session.mutate mutation with
    | .ok _ => mutation.draws session.panels
    | .error _ => 0
  | none, _ => 0

/-- What an operation does to the panels, the source and the history of a session. -/
inductive Change (session : Session σ) : Operation → Session σ → Prop
  | kept {operation : Operation} {next : Session σ}
      (stays : session.replacement? operation = none) (idle : session.draws operation = 0)
      (panels : next.panels = session.panels) (source : next.source = session.source)
      (history : next.history = session.history) : Change session operation next
  | edited {mutation : Mutation} {next : Session σ} {done : Mutated σ}
      (effect : mutation.Effect session.panels session.source done)
      (drawn : session.draws (.mutate mutation) = mutation.draws session.panels)
      (panels : next.panels = done.panels) (source : next.source = done.source)
      (history : next.history.states ⊆ session.states) : Change session (.mutate mutation) next
  | traded {operation : Operation} {next : Session σ}
      (trades : operation = .undo ∨ operation = .redo) (panels : next.panels ∈ session.states)
      (source : next.source = session.source) (history : next.history.states ⊆ session.states) :
      Change session operation next
  | replaced {operation : Operation} {next : Session σ} {drafts : List Draft}
      (replacing : session.replacement? operation = some drafts) (some : drafts ≠ [])
      (panels : next.panels = (Draft.numberAll drafts session.source).1)
      (source : next.source = (Draft.numberAll drafts session.source).2)
      (history : next.history.states ⊆ session.states) : Change session operation next

theorem draftsOf_ne_nil (options : SessionOptions) (document : Json) :
    draftsOf options document ≠ [] := by
  unfold draftsOf
  split
  · exact List.cons_ne_nil _ _
  · assumption

theorem change_of_after_eq {session : Session σ} {operation : Operation}
    (stays : session.replacement? operation = none) (idle : session.draws operation = 0)
    (same : session.after operation = session) :
    Change session operation (session.after operation) := by
  rw [same]
  exact .kept stays idle rfl rfl rfl

theorem change_mutate (session : Session σ) (mutation : Mutation) :
    Change session (.mutate mutation) (session.after (.mutate mutation)) := by
  cases attempt : session.mutate mutation with
  | error reason =>
      have same : session.after (.mutate mutation) = session := by
        simp only [after, perform, attempt, Except.map]
      have idle : session.draws (.mutate mutation) = 0 := by
        simp only [draws, replacement?, attempt]
      exact change_of_after_eq rfl idle same
  | ok answer =>
      have next : session.after (.mutate mutation) = answer.2 := by
        simp only [after, perform, attempt, Except.map]
      have drawn : session.draws (.mutate mutation) = mutation.draws session.panels := by
        simp only [draws, replacement?, attempt]
      unfold mutate at attempt
      split at attempt
      · cases attempt
      · split at attempt
        · rename_i done accepted
          cases attempt
          have effect := Mutation.effect_of_run accepted
          rw [next]
          by_cases same : session.panels = done.panels
          · rw [settle, if_pos same]
            exact .edited effect drawn same rfl (List.subset_cons_self _ _)
          · rw [settle, if_neg same]
            exact .edited effect drawn rfl rfl (History.states_record_subset _ _ _)
        · cases attempt

/-- Undoing and redoing go to what their history has found, if the session is not in raw mode. -/
theorem change_trade (session : Session σ) {operation : Operation}
    {found : Option (List Panel × History (List Panel))}
    (trades : operation = .undo ∨ operation = .redo)
    (performs : session.perform operation =
      Except.map (fun (changed, next) => (.done changed, next))
        (if session.isRaw then .error .inRawMode
        else match found with
          | some (panels, history) => .ok (true, { session with panels, history })
          | none => .ok (false, session)))
    (known : ∀ {panels history}, found = some (panels, history) →
      panels ∈ session.history.states ∧ history.states ⊆ session.states) :
    Change session operation (session.after operation) := by
  have kept (same : session.after operation = session) :
      Change session operation (session.after operation) := by
    rcases trades with rfl | rfl
    · exact change_of_after_eq rfl rfl same
    · exact change_of_after_eq rfl rfl same
  by_cases raw : session.isRaw
  · apply kept
    simp only [after, performs, raw, if_true, Except.map]
  · cases found with
    | none =>
        apply kept
        simp only [after, performs, raw, Except.map, Bool.false_eq_true, if_false]
    | some place =>
        obtain ⟨panels, history⟩ := place
        obtain ⟨before, rest⟩ := known rfl
        have next : session.after operation = { session with panels, history } := by
          simp only [after, performs, raw, Except.map, Bool.false_eq_true, if_false]
        rw [next]
        exact .traded trades (List.mem_cons_of_mem _ before) rfl rest

theorem change_undo (session : Session σ) : Change session .undo (session.after .undo) :=
  change_trade session (.inl rfl) rfl History.states_of_undo

theorem change_redo (session : Session σ) : Change session .redo (session.after .redo) :=
  change_trade session (.inr rfl) rfl History.states_of_redo

theorem change_loadRead (session : Session σ) (read : Except FileError String) :
    Change session (.loadRead read) (session.after (.loadRead read)) := by
  cases read with
  | error reason => exact .kept rfl rfl rfl rfl rfl
  | ok text =>
      cases parsed : Json.parse? text with
      | none =>
          have stays : session.replacement? (.loadRead (.ok text)) = none := by
            simp only [replacement?, parsed, Option.map_none]
          have same : session.after (.loadRead (.ok text)) = session := by
            simp only [after, perform, loadRead, loadText, parsed, Except.map]
          exact change_of_after_eq stays (by simp only [draws, stays]) same
      | some document =>
          have replacing : session.replacement? (.loadRead (.ok text)) =
              some (draftsOf session.options document) := by
            simp only [replacement?, parsed, Option.map_some]
          have next : session.after (.loadRead (.ok text)) = session.load document := by
            simp only [after, perform, loadRead, loadText, parsed, Except.map]
          rw [next]
          exact .replaced replacing (draftsOf_ne_nil _ _) rfl rfl (List.nil_subset _)

theorem change_raw (session : Session σ) (step : EditorStep) :
    Change session (.raw step) (session.after (.raw step)) := by
  cases editing : session.raw with
  | none =>
      have same : session.after (.raw step) = session := by
        simp only [after, perform, rawStep, editing, Except.map]
      exact change_of_after_eq rfl rfl same
  | some raw =>
      have next : session.after (.raw step) =
          { session with raw := some (raw.perform step).2 } := by
        simp only [after, perform, rawStep, editing, Except.map]
      rw [next]
      exact .kept rfl rfl rfl rfl rfl

theorem change_discardRaw (session : Session σ) :
    Change session .discardRaw (session.after .discardRaw) := by
  by_cases raw : session.isRaw
  · have next : session.after .discardRaw = { session with raw := none } := by
      simp only [after, perform, discardRaw, raw, if_true, Except.map]
    rw [next]
    exact .kept rfl rfl rfl rfl rfl
  · have same : session.after .discardRaw = session := by
      simp only [after, perform, discardRaw, raw, Except.map, Bool.false_eq_true, if_false]
    exact change_of_after_eq rfl rfl same

theorem change_commitRaw (session : Session σ) :
    Change session .commitRaw (session.after .commitRaw) := by
  simp only [after, perform, commitRaw]
  cases editing : session.raw with
  | none =>
      have stays : session.replacement? .commitRaw = none := by
        simp only [replacement?, editing, Option.map_none]
      exact .kept stays (by simp only [draws, stays]) rfl rfl rfl
  | some raw =>
      have replacing : session.replacement? .commitRaw =
          some (draftsOf session.options raw.root) := by
        simp only [replacement?, editing, Option.map_some]
      exact .replaced replacing (draftsOf_ne_nil _ _) rfl rfl (History.states_record_subset _ _ _)

/-- An operation changes a session in one of these ways. -/
theorem change_after (session : Session σ) (operation : Operation) :
    Change session operation (session.after operation) := by
  cases operation with
  | mutate mutation => exact change_mutate session mutation
  | undo => exact change_undo session
  | redo => exact change_redo session
  | load document =>
      exact .replaced rfl (draftsOf_ne_nil _ _) rfl rfl (List.nil_subset _)
  | loadRead read => exact change_loadRead session read
  | reset => exact .replaced rfl (List.cons_ne_nil _ _) rfl rfl (List.nil_subset _)
  | enterRaw => exact .kept rfl rfl rfl rfl rfl
  | raw step => exact change_raw session step
  | commitRaw => exact change_commitRaw session
  | discardRaw => exact change_discardRaw session

end Session

end RichMessage
