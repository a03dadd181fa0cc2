import RichMessage.Proofs.History.Client

set_option autoImplicit false

/- The states that a client can reach by undoing and redoing form a line in time, and the client
stands at one of them. A timeline is just that: the states from the oldest to the latest, the
changes between them, and a cursor. Reading the two stacks of a history off a timeline is exact at
every moment: what a client does to its history is what the same step does to the timeline. -/
namespace RichMessage

/-- States from the oldest to the latest, with a cursor at one of them. -/
@[ext]
structure Timeline (α : Type) where
  states : List α
  /-- The change at an index leads from the state at that index to the next one. -/
  changes : List String
  cursor : Nat
  inside : cursor < states.length
  between : changes.length + 1 = states.length

namespace Timeline

variable {α : Type}

/-- One state and no changes. -/
def start (state : α) : Timeline α where
  states := [state]
  changes := []
  cursor := 0
  inside := by simp
  between := by simp

def current (line : Timeline α) : α :=
  line.states.get ⟨line.cursor, line.inside⟩

/-- Drops what is behind the cursor and goes on to a new state; the oldest state goes when more
states than the limit precede the new one. -/
def change (limit : Nat) (line : Timeline α) (next : α) (description : String) : Timeline α :=
  let dropped := if 0 < limit ∧ limit < line.cursor + 1 then 1 else 0
  { states := (line.states.take (line.cursor + 1) ++ [next]).drop dropped
    changes := (line.changes.take line.cursor ++ [description]).drop dropped
    cursor := line.cursor + 1 - dropped
    inside := by
      have inside := line.inside
      have few : dropped ≤ 1 := by unfold dropped; split <;> omega
      simp only [List.length_drop, List.length_append, List.length_take, List.length_singleton]
      omega
    between := by
      have inside := line.inside
      have between := line.between
      have few : dropped ≤ 1 := by unfold dropped; split <;> omega
      simp only [List.length_drop, List.length_append, List.length_take, List.length_singleton]
      omega }

/-- Moves the cursor back by one where there is a state before it. -/
def undo (line : Timeline α) : Timeline α :=
  { line with
    cursor := line.cursor - 1
    inside := by have := line.inside; omega }

/-- Moves the cursor on by one where there is a state after it. -/
def redo (line : Timeline α) : Timeline α :=
  if more : line.cursor + 1 < line.states.length then
    { line with cursor := line.cursor + 1, inside := more }
  else line

theorem states_redo (line : Timeline α) : line.redo.states = line.states := by
  unfold redo
  split <;> rfl

theorem changes_redo (line : Timeline α) : line.redo.changes = line.changes := by
  unfold redo
  split <;> rfl

theorem cursor_redo (line : Timeline α) :
    line.redo.cursor =
      if line.cursor + 1 < line.states.length then line.cursor + 1 else line.cursor := by
  unfold redo
  split <;> rfl

def step (limit : Nat) (line : Timeline α) : Client.Step α → Timeline α
  | .change next description => line.change limit next description
  | .undo => line.undo
  | .redo => line.redo
  | .clear => start line.current

def run (limit : Nat) (line : Timeline α) (steps : List (Client.Step α)) : Timeline α :=
  steps.foldl (step limit) line

end Timeline

namespace Client

variable {α : Type}

/-- The states around the current one, with the cursor at the current one. -/
def timeline (client : Client α) : Timeline α where
  states := client.history.undoStates ++
    client.current :: client.history.future.map Snapshot.state
  changes := (client.history.past.map Snapshot.description).reverse ++
    client.history.future.map Snapshot.description
  cursor := client.history.past.length
  inside := by
    simp only [History.undoStates, List.length_append, List.length_reverse, List.length_map,
      List.length_cons]
    omega
  between := by
    simp only [History.undoStates, List.length_append, List.length_reverse, List.length_map,
      List.length_cons]
    omega

theorem length_undoStates (history : History α) :
    history.undoStates.length = history.past.length := by
  rw [History.undoStates, List.length_reverse, List.length_map]

theorem current_timeline (client : Client α) : client.timeline.current = client.current := by
  have place := length_undoStates client.history
  simp only [Timeline.current, timeline, List.get_eq_getElem]
  rw [List.getElem_append_right (by omega)]
  simp only [place, Nat.sub_self, List.getElem_cons_zero]

theorem timeline_change (client : Client α) (next : α) (description : String) :
    (client.step (.change next description)).timeline =
      client.timeline.change client.history.limit next description := by
  obtain ⟨current, limit, past, future⟩ := client
  have states := History.reverse_map_trim Snapshot.state limit (⟨current, description⟩ :: past)
  have changes :=
    History.reverse_map_trim Snapshot.description limit (⟨current, description⟩ :: past)
  have length := History.length_trim limit (⟨current, description⟩ :: past)
  simp only [History.surplus, List.length_cons, List.map_cons, List.reverse_cons]
    at states changes length
  have room : (if 0 < limit ∧ limit < past.length + 1 then 1 else 0) ≤ past.length + 1 := by
    split <;> omega
  apply Timeline.ext
  · have front : ((past.map Snapshot.state).reverse ++ current ::
        future.map Snapshot.state).take (past.length + 1) =
        (past.map Snapshot.state).reverse ++ [current] := by
      rw [List.append_cons, List.take_left' (by simp)]
    simp only [timeline, step, History.record, History.undoStates, Timeline.change, states, front,
      List.map_nil]
    exact (List.drop_append_of_le_length (by simpa using room)).symm
  · have front : ((past.map Snapshot.description).reverse ++
        future.map Snapshot.description).take past.length =
        (past.map Snapshot.description).reverse := by
      rw [List.take_left' (by simp)]
    simp only [timeline, step, History.record, Timeline.change, changes, front, List.map_nil,
      List.append_nil]
    rfl
  · exact length

/-- What a client does to its history is what the same step does to its timeline. -/
theorem timeline_step (client : Client α) (step : Step α) :
    (client.step step).timeline = client.timeline.step client.history.limit step := by
  cases step with
  | change next description => exact timeline_change client next description
  | undo =>
      obtain ⟨current, limit, past, future⟩ := client
      cases past with
      | nil => rfl
      | cons latest older =>
          apply Timeline.ext
          · simp [timeline, Client.step, History.undo?, History.undoStates, Timeline.step,
              Timeline.undo]
          · simp [timeline, Client.step, History.undo?, Timeline.step, Timeline.undo]
          · rfl
  | redo =>
      obtain ⟨current, limit, past, future⟩ := client
      apply Timeline.ext
      · rw [Timeline.step, Timeline.states_redo]
        cases future <;> simp [timeline, Client.step, History.redo?, History.undoStates]
      · rw [Timeline.step, Timeline.changes_redo]
        cases future <;> simp [timeline, Client.step, History.redo?]
      · rw [Timeline.step, Timeline.cursor_redo]
        cases future <;> simp [timeline, Client.step, History.redo?, length_undoStates]
  | clear =>
      have current := current_timeline client
      simp only [Timeline.step, current]
      rfl

theorem timeline_run (client : Client α) (steps : List (Step α)) :
    (client.run steps).timeline = client.timeline.run client.history.limit steps := by
  induction steps generalizing client with
  | nil => rfl
  | cons first rest ih =>
      rw [run_cons, ih, limit_step, timeline_step]
      rfl

/-- Over every run the current state is the one at the cursor of the timeline, the two stacks hold
what lies before and after it, and undoing and redoing name the changes next to it. Undoing several
changes and redoing them leaves no trace. -/
theorem run_follows_timeline (limit : Nat) (state : α) (steps : List (Step α)) :
    let client := (start limit state).run steps
    let line := (Timeline.start state).run limit steps
    client.current = line.current ∧
      client.history.undoStates = line.states.take line.cursor ∧
      client.history.future.map Snapshot.state = line.states.drop (line.cursor + 1) ∧
      client.history.undoDescription? = (line.changes.take line.cursor).getLast? ∧
      client.history.redoDescription? = (line.changes.drop line.cursor).head? ∧
      (0 < limit → client.history.past.length + client.history.future.length ≤ limit) ∧
      ∀ count ≤ client.history.past.length,
        client.run (List.replicate count .undo ++ List.replicate count .redo) = client := by
  intro client line
  have follows : client.timeline = line := timeline_run (start limit state) steps
  have kept : client.history.limit = limit := limit_run (start limit state) steps
  have bounded := bounded_run (bounded_start limit state) steps
  refine ⟨?_, ?_, ?_, ?_, ?_, ?_, ?_⟩
  · rw [← follows, current_timeline]
  · rw [← follows]
    simp [timeline, length_undoStates]
  · rw [← follows]
    simp [timeline, length_undoStates, List.drop_append]
  · rw [← follows]
    simp [timeline, History.undoDescription?]
  · rw [← follows]
    simp [timeline, History.redoDescription?]
  · intro positive
    have fits := bounded (by rwa [← kept] at positive)
    rwa [kept] at fits
  · intro count enough
    exact redo_undo_many count enough

/-- Three changes are one more than the limit, so the oldest state is gone, and one of the two that
are left to undo has been undone. -/
theorem three_changes_follow_timeline :
    let steps : List (Step String) :=
      [.change "b" "first", .change "c" "second", .change "d" "third", .undo]
    let client := (start 2 "a").run steps
    client.history.undoStates = ["b"] ∧ 0 < 2 ∧
      client.history.past.length + client.history.future.length ≤ 2 ∧
      1 ≤ client.history.past.length ∧
      client.run (List.replicate 1 .undo ++ List.replicate 1 .redo) = client := by
  intro steps client
  obtain ⟨_, _, _, _, _, bound, back⟩ := run_follows_timeline 2 "a" steps
  exact ⟨rfl, by decide, bound (by decide), by decide, back 1 (by decide)⟩

end Client

end RichMessage
