import RichMessage.History

set_option autoImplicit false

namespace RichMessage

namespace History

variable {α : Type}

/-- The nearest snapshots, as many as a limit keeps; zero keeps all of them. -/
def newest (limit : Nat) (snapshots : List (Snapshot α)) : List (Snapshot α) :=
  if limit = 0 then snapshots else snapshots.take limit

/-- Past and future together have no more snapshots than the limit allows. -/
def Bounded (history : History α) : Prop :=
  0 < history.limit → history.past.length + history.future.length ≤ history.limit

/-- How many snapshots are too many, if there is at most one too many. -/
def surplus (limit count : Nat) : Nat :=
  if 0 < limit ∧ limit < count then 1 else 0

/-- Trimming takes the oldest snapshot, which stands first when the past is read forwards. -/
theorem reverse_map_trim {β : Type} (f : Snapshot α → β) (limit : Nat)
    (past : List (Snapshot α)) :
    ((trim limit past).map f).reverse =
      ((past.map f).reverse).drop (surplus limit past.length) := by
  by_cases full : 0 < limit ∧ limit < past.length
  · rw [trim, surplus, if_pos full, if_pos full, List.map_dropLast, ← List.tail_reverse,
      List.drop_one]
  · rw [trim, surplus, if_neg full, if_neg full, List.drop_zero]

theorem length_trim (limit : Nat) (past : List (Snapshot α)) :
    (trim limit past).length = past.length - surplus limit past.length := by
  have forwards := congrArg List.length (reverse_map_trim id limit past)
  simpa only [List.length_reverse, List.length_map, List.length_drop] using forwards

theorem trim_cons (limit : Nat) (snapshot : Snapshot α) (past : List (Snapshot α)) :
    ∃ older, trim limit (snapshot :: past) = snapshot :: older := by
  by_cases full : 0 < limit ∧ limit < (snapshot :: past).length
  · have more : past ≠ [] := by
      rintro rfl
      rw [List.length_singleton] at full
      omega
    exact ⟨past.dropLast, by rw [trim, if_pos full, List.dropLast_cons_of_ne_nil more]⟩
  · exact ⟨past, by rw [trim, if_neg full]⟩

/-- Within the bound one snapshot more than the limit is the most there can be, so trimming once
leaves the newest ones. -/
theorem trim_eq_newest {limit : Nat} {past : List (Snapshot α)} (snapshot : Snapshot α)
    (bounded : 0 < limit → past.length ≤ limit) :
    trim limit (snapshot :: past) = newest limit (snapshot :: past) := by
  have length : (snapshot :: past).length = past.length + 1 := rfl
  by_cases unlimited : limit = 0
  · rw [trim, newest, if_neg (by omega), if_pos unlimited]
  · have fits := bounded (by omega)
    by_cases full : limit < (snapshot :: past).length
    · have last : (snapshot :: past).length - 1 = limit := by omega
      rw [trim, newest, if_pos ⟨by omega, full⟩, if_neg unlimited, List.dropLast_eq_take, last]
    · rw [trim, newest, if_neg (by omega), if_neg unlimited, List.take_of_length_le (by omega)]

theorem past_record {history : History α} (bounded : history.Bounded) (previous : α)
    (description : String) :
    (history.record previous description).past =
      newest history.limit (⟨previous, description⟩ :: history.past) := by
  apply trim_eq_newest
  intro positive
  have fits := bounded positive
  omega

/-- What has just been recorded is what undoing gives back, whatever is current then. -/
theorem undo?_record (history : History α) (previous current : α) (description : String) :
    ∃ rest, (history.record previous description).undo? current = some (previous, rest) := by
  obtain ⟨older, kept⟩ := trim_cons history.limit ⟨previous, description⟩ history.past
  simp only [undo?, record, kept]
  exact ⟨_, rfl⟩

/-- Redoing what has just been undone restores the history. -/
theorem redo?_of_undo? {history rest : History α} {current state : α}
    (undone : history.undo? current = some (state, rest)) :
    rest.redo? state = some (current, history) := by
  unfold undo? at undone
  split at undone
  · cases undone
  · rename_i latest past earlier
    cases undone
    simp only [redo?, ← earlier]

end History

structure Client (α : Type) where
  current : α
  history : History α

namespace Client

variable {α : Type}

inductive Step (α : Type) where
  | change (next : α) (description : String)
  | undo
  | redo
  | clear

def start (limit : Nat) (current : α) : Client α :=
  ⟨current, { limit }⟩

def step (client : Client α) : Step α → Client α
  | .change next description => ⟨next, client.history.record client.current description⟩
  | .undo =>
    match client.history.undo? client.current with
    | some (state, history) => ⟨state, history⟩
    | none => client
  | .redo =>
    match client.history.redo? client.current with
    | some (state, history) => ⟨state, history⟩
    | none => client
  | .clear => ⟨client.current, client.history.clear⟩

def run (client : Client α) (steps : List (Step α)) : Client α :=
  steps.foldl step client

@[simp] theorem run_nil (client : Client α) : client.run [] = client := rfl

@[simp] theorem run_cons (client : Client α) (first : Step α) (rest : List (Step α)) :
    client.run (first :: rest) = (client.step first).run rest := rfl

@[simp] theorem run_append (client : Client α) (first second : List (Step α)) :
    client.run (first ++ second) = (client.run first).run second :=
  List.foldl_append

theorem limit_step (client : Client α) (step : Step α) :
    (client.step step).history.limit = client.history.limit := by
  obtain ⟨current, limit, past, future⟩ := client
  cases step with
  | change next description => rfl
  | undo => cases past <;> rfl
  | redo => cases future <;> rfl
  | clear => rfl

theorem limit_run (client : Client α) (steps : List (Step α)) :
    (client.run steps).history.limit = client.history.limit := by
  induction steps generalizing client with
  | nil => rfl
  | cons first rest ih => rw [run_cons, ih, limit_step]

/-- A change leaves nothing to redo and trims the past; every other step only moves snapshots from
one side to the other, or drops them. -/
theorem bounded_step {client : Client α} (bounded : client.history.Bounded) (step : Step α) :
    (client.step step).history.Bounded := by
  obtain ⟨current, limit, past, future⟩ := client
  intro positive
  have same := limit_step ⟨current, limit, past, future⟩ step
  have fits := bounded (by rwa [same] at positive)
  simp only at same fits
  rw [same] at positive ⊢
  cases step with
  | change next description =>
      have trimmed := History.length_trim limit (⟨current, description⟩ :: past)
      simp only [Client.step, History.record, List.length_nil, History.surplus,
        List.length_cons] at trimmed ⊢
      split at trimmed <;> omega
  | undo =>
      cases past with
      | nil => exact fits
      | cons latest past =>
          simp only [Client.step, History.undo?, List.length_cons] at fits ⊢
          omega
  | redo =>
      cases future with
      | nil => exact fits
      | cons next future =>
          simp only [Client.step, History.redo?, List.length_cons] at fits ⊢
          omega
  | clear => exact Nat.zero_le _

theorem bounded_run {client : Client α} (bounded : client.history.Bounded)
    (steps : List (Step α)) : (client.run steps).history.Bounded := by
  induction steps generalizing client with
  | nil => exact bounded
  | cons first rest ih => exact ih (bounded_step bounded first)

theorem bounded_start (limit : Nat) (current : α) : (start limit current).history.Bounded := by
  intro _
  exact Nat.zero_le _

/-- As long as there is something to undo, redoing takes the client back to where it was. -/
theorem redo_undo {client : Client α} (past : client.history.past ≠ []) :
    (client.step .undo).step .redo = client ∧
      (client.step .undo).history.past.length + 1 = client.history.past.length := by
  obtain ⟨current, limit, snapshots, future⟩ := client
  cases snapshots with
  | nil => exact absurd rfl past
  | cons latest older => exact ⟨rfl, rfl⟩

/-- Undoing several times and redoing as often restores the current state and the history. -/
theorem redo_undo_many (count : Nat) {client : Client α}
    (enough : count ≤ client.history.past.length) :
    client.run (List.replicate count .undo ++ List.replicate count .redo) = client := by
  induction count generalizing client with
  | zero => rfl
  | succ count ih =>
      have past : client.history.past ≠ [] := by
        intro none
        rw [none, List.length_nil] at enough
        omega
      obtain ⟨back, length⟩ := redo_undo past
      have inner : (client.step .undo).run
          (List.replicate count .undo ++ List.replicate count .redo) = client.step .undo :=
        ih (by omega)
      -- the first undo and the last redo enclose the others
      rw [List.replicate_succ, List.replicate_succ', List.cons_append, ← List.append_assoc,
        run_cons, run_append, inner]
      exact back

end Client

end RichMessage
