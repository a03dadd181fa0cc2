import RichMessage.Proofs.History.Client
import RichMessage.Proofs.Panel.Identifiers
import RichMessage.Session.Operation

set_option autoImplicit false

namespace RichMessage

namespace Session

variable {σ : Type}

/-- The panels and their history. -/
def client (session : Session σ) : Client (List Panel) :=
  ⟨session.panels, session.history⟩

/-- The options are the same, and the panels have come about by steps of a client. -/
def Continues (session next : Session σ) : Prop :=
  next.options = session.options ∧ ∃ steps, next.client = session.client.run steps

theorem Continues.refl (session : Session σ) : Continues session session :=
  ⟨rfl, [], rfl⟩

theorem Continues.trans {first second third : Session σ} (front : Continues first second)
    (back : Continues second third) : Continues first third := by
  obtain ⟨options, steps, ran⟩ := front
  obtain ⟨same, later, then_⟩ := back
  exact ⟨same.trans options, steps ++ later, by rw [then_, ran, Client.run_append]⟩

/-- Goes to a place that the history has found. Undoing and redoing differ in where they look. -/
def trade (session : Session σ) (found : Option (List Panel × History (List Panel))) :
    Except SessionError (Bool × Session σ) :=
  if session.isRaw then .error .inRawMode
  else
    match found with
    | some (panels, history) => .ok (true, { session with panels, history })
    | none => .ok (false, session)

theorem raw_eq_none_of_not_isRaw {session : Session σ} (blocks : ¬ session.isRaw) :
    session.raw = none := by
  simpa [isRaw] using blocks

variable [IdSource σ]

/-- An accepted mutation is only accepted outside of raw mode. Either it has changed nothing at all,
or it has changed the panels and recorded those before it. -/
theorem mutate_cases {session next : Session σ} {mutation : Mutation} {created : Option String}
    (accepted : session.mutate mutation = .ok (created, next)) :
    session.raw = none ∧
      (next = session ∨ next.panels ≠ session.panels ∧
        next = { session with
          panels := next.panels
          source := next.source
          history := session.history.record session.panels mutation.description }) := by
  unfold mutate at accepted
  split at accepted
  · cases accepted
  · rename_i blocks
    refine ⟨raw_eq_none_of_not_isRaw blocks, ?_⟩
    split at accepted
    · rename_i done ran
      cases accepted
      by_cases same : session.panels = done.panels
      · have undrawn := Mutation.source_eq_of_panels_eq (Mutation.effect_of_run ran) same.symm
        left
        rw [settle, if_pos same, undrawn]
      · right
        rw [settle, if_neg same]
        exact ⟨fun equal => same equal.symm, rfl⟩
    · cases accepted

/-- Outside of raw mode what has just been recorded can be taken back and made again. -/
theorem undo_of_record {session before : Session σ} {description : String}
    (blocks : session.raw = none)
    (recorded : session.history = before.history.record before.panels description) :
    ∃ undone, session.perform .undo = .ok (.done true, undone) ∧ undone.panels = before.panels ∧
      undone.perform .redo = .ok (.done true, session) := by
  obtain ⟨panels, source, history, raw, options⟩ := session
  cases blocks
  obtain ⟨rest, found⟩ := before.history.undo?_record before.panels panels description
  rw [← recorded] at found
  have again := History.redo?_of_undo? found
  refine ⟨⟨before.panels, source, rest, none, options⟩, ?_, rfl, ?_⟩
  · simp only [perform, undo, found]
    rfl
  · simp only [perform, redo, again]
    rfl

/-- A fresh start is a change whose traces are cleared. -/
theorem continues_load (session : Session σ) (document : Json) :
    Continues session (session.load document) :=
  ⟨rfl, [.change (session.load document).panels "", .clear], rfl⟩

theorem continues_trade {session : Session σ} {operation : Operation}
    {found : Option (List Panel × History (List Panel))} (step : Client.Step (List Panel))
    (performs : session.perform operation =
      (session.trade found).map fun (changed, next) => (.done changed, next))
    (goes : ∀ {panels history}, found = some (panels, history) →
      session.client.step step = ⟨panels, history⟩) :
    Continues session (session.after operation) := by
  by_cases raw : session.isRaw
  · have same : session.after operation = session := by
      simp only [after, performs, trade, raw, if_true, Except.map]
    rw [same]
    exact .refl session
  · cases found with
    | none =>
        have same : session.after operation = session := by
          simp only [after, performs, trade, raw, Except.map, Bool.false_eq_true, if_false]
        rw [same]
        exact .refl session
    | some place =>
        have next : session.after operation =
            { session with panels := place.1, history := place.2 } := by
          simp only [after, performs, trade, raw, Except.map, Bool.false_eq_true, if_false]
        rw [next]
        exact ⟨rfl, [step], (goes rfl).symm⟩

theorem continues_after (session : Session σ) (operation : Operation) :
    Continues session (session.after operation) := by
  cases operation with
  | mutate mutation =>
      cases attempt : session.mutate mutation with
      | error reason =>
          have next : session.after (.mutate mutation) = session := by
            simp only [after, perform, attempt, Except.map]
          rw [next]
          exact .refl session
      | ok answer =>
          have next : session.after (.mutate mutation) = answer.2 := by
            simp only [after, perform, attempt, Except.map]
          rw [next]
          rcases (mutate_cases attempt).2 with same | ⟨_, recorded⟩
          · rw [same]
            exact .refl session
          · rw [recorded]
            exact ⟨rfl, [.change answer.2.panels mutation.description], rfl⟩
  | undo =>
      have goes {panels : List Panel} {history : History (List Panel)}
          (found : session.history.undo? session.panels = some (panels, history)) :
          session.client.step .undo = ⟨panels, history⟩ := by
        simp only [Client.step, client, found]
      exact continues_trade .undo rfl goes
  | redo =>
      have goes {panels : List Panel} {history : History (List Panel)}
          (found : session.history.redo? session.panels = some (panels, history)) :
          session.client.step .redo = ⟨panels, history⟩ := by
        simp only [Client.step, client, found]
      exact continues_trade .redo rfl goes
  | load document => exact continues_load session document
  | loadRead read =>
      cases read with
      | error reason => exact .refl session
      | ok text =>
          simp only [after, perform, loadRead, loadText]
          cases Json.parse? text with
          | none => exact .refl session
          | some document => exact continues_load session document
  | reset => exact ⟨rfl, [.change session.reset.panels "", .clear], rfl⟩
  | enterRaw => exact ⟨rfl, [], rfl⟩
  | raw step =>
      simp only [after, perform, rawStep]
      cases session.raw with
      | none => exact .refl session
      | some editor => exact ⟨rfl, [], rfl⟩
  | commitRaw =>
      simp only [after, perform, commitRaw]
      cases session.raw with
      | none => exact .refl session
      | some editor =>
          exact ⟨rfl, [.change (session.withDocument editor.root).panels "Raw edit"], rfl⟩
  | discardRaw =>
      simp only [after, perform, discardRaw]
      cases session.isRaw with
      | false => exact .refl session
      | true => exact ⟨rfl, [], rfl⟩

theorem continues_run (session : Session σ) (operations : List Operation) :
    Continues session (session.run operations) := by
  induction operations generalizing session with
  | nil => exact .refl session
  | cons operation rest ih =>
      exact (continues_after session operation).trans (ih (session.after operation))

variable (options : SessionOptions) (source : σ) (operations : List Operation)

theorem options_run_create : ((create options source).run operations).options = options :=
  (continues_run (create options source) operations).1

/-- The history of a session keeps to the limit that the session has been made with. -/
theorem limit_run_create :
    ((create options source).run operations).history.limit = options.historyLimit.toNat := by
  obtain ⟨_, steps, ran⟩ := continues_run (create options source) operations
  have kept := Client.limit_run (create options source).client steps
  rw [← ran] at kept
  exact kept

theorem bounded_run_create : ((create options source).run operations).history.Bounded := by
  obtain ⟨_, steps, ran⟩ := continues_run (create options source) operations
  have start : (create options source).client.history.Bounded := Client.bounded_start _ _
  have bounded := Client.bounded_run start steps
  rw [← ran] at bounded
  exact bounded

end Session

end RichMessage
