import RichMessage.Proofs.Session.Changes

set_option autoImplicit false

/- Undoing takes panels back but not the source that has numbered them. So whatever is issued after
some operations is new to the whole session: to the panels as they are, to every snapshot and to all
that has been there and is gone. The invariant is that the panels and the snapshots only hold
identifiers from what the source has issued so far, each of them once. -/
namespace RichMessage

/-- Panels that are there and whose identifiers have been issued and are all different. -/
structure Panel.Sound (issued : List String) (panels : List Panel) : Prop where
  present : panels ≠ []
  distinct : (allIdents panels).Nodup
  known : allIdents panels ⊆ issued

theorem Panel.Sound.mono {issued more : List String} {panels : List Panel}
    (sound : Sound issued panels) : Sound (issued ++ more) panels where
  present := sound.present
  distinct := sound.distinct
  known := List.Subset.trans sound.known (List.subset_append_left issued more)

namespace Session

variable {σ : Type}

/-- Every state of a session, the current one and the snapshots, is sound. -/
def Sound (issued : List String) (session : Session σ) : Prop :=
  ∀ panels ∈ session.states, Panel.Sound issued panels

theorem Sound.mono {issued more : List String} {session : Session σ}
    (sound : Sound issued session) : Sound (issued ++ more) session :=
  fun panels inside => (sound panels inside).mono

variable [IdSource σ]

/-- The identifiers that an operation draws for new panels and blocks. -/
def assigned (session : Session σ) (operation : Operation) : List String :=
  IdSource.issue (session.draws operation) session.source

/-- Where the identifiers of the panels after an operation come from. -/
def Provenance (session : Session σ) (operation : Operation) : Prop :=
  let next := session.after operation
  match session.replacement? operation, operation with
  | some _, _ => Panel.allIdents next.panels = session.assigned operation
  | none, .mutate _ =>
    Regrouped (Panel.allIdents session.panels) (session.assigned operation)
      (Panel.allIdents next.panels)
  | none, .undo | none, .redo => session.assigned operation = [] ∧ next.panels ∈ session.states
  | none, _ => session.assigned operation = [] ∧ next.panels = session.panels

theorem draws_of_replacement {session : Session σ} {operation : Operation} {drafts : List Draft}
    (replacing : session.replacement? operation = some drafts) :
    session.draws operation = Draft.totalSize drafts := by
  simp only [draws, replacing]

theorem assigned_of_idle {session : Session σ} {operation : Operation}
    (idle : session.draws operation = 0) : session.assigned operation = [] := by
  rw [assigned, idle, IdSource.issue]

/-- An operation leaves the source behind the identifiers that it draws. -/
theorem source_after (session : Session σ) (operation : Operation) :
    (session.after operation).source =
      IdSource.advance (session.draws operation) session.source := by
  cases session.change_after operation with
  | kept stays idle panels source history => rw [source, idle, IdSource.advance]
  | edited effect drawn panels source history =>
      rw [source, drawn]
      exact Mutation.source_of_effect effect
  | traded trades panels source history =>
      rw [source]
      rcases trades with rfl | rfl <;> rfl
  | replaced replacing some panels source history =>
      rw [source, draws_of_replacement replacing]
      exact Draft.source_numberAll _ _

theorem provenance (session : Session σ) (operation : Operation) :
    session.Provenance operation := by
  cases session.change_after operation with
  | kept stays idle panels source history =>
      have none := assigned_of_idle idle
      simp only [Provenance, stays, none, panels]
      cases operation with
      | mutate mutation => exact .of_kept (.refl _)
      | undo => exact ⟨trivial, List.mem_cons_self⟩
      | redo => exact ⟨trivial, List.mem_cons_self⟩
      | _ => exact ⟨trivial, trivial⟩
  | edited effect drawn panels source history =>
      have regrouped := Mutation.regrouped_of_effect effect
      simp only [Provenance, replacement?, assigned, drawn, panels]
      exact regrouped
  | traded trades panels source history =>
      rcases trades with rfl | rfl
      · exact ⟨rfl, panels⟩
      · exact ⟨rfl, panels⟩
  | @replaced operation next drafts replacing some panels source history =>
      have numbered := Draft.allIdents_numberAll drafts session.source
      simp only [Provenance, replacing, assigned, draws_of_replacement replacing, panels]
      exact numbered

/-- An operation that draws new identifiers keeps a session sound. -/
theorem sound_after {issued : List String} {session : Session σ} (operation : Operation)
    (sound : Sound issued session) (apart : (issued ++ session.assigned operation).Nodup) :
    Sound (issued ++ session.assigned operation) (session.after operation) := by
  have old : Sound (issued ++ session.assigned operation) session := sound.mono
  have current := sound session.panels List.mem_cons_self
  -- a snapshot is only ever made of the state that is being left
  have whole (now : Panel.Sound (issued ++ session.assigned operation)
      (session.after operation).panels)
      (before : (session.after operation).history.states ⊆ session.states) :
      Sound (issued ++ session.assigned operation) (session.after operation) := by
    intro panels inside
    rcases List.mem_cons.mp inside with rfl | snapshot
    · exact now
    · exact old panels (before snapshot)
  have came := session.provenance operation
  cases session.change_after operation with
  | kept stays idle panels source history =>
      refine whole ?_ ?_
      · rw [panels]
        exact current.mono
      · rw [history]
        exact List.subset_cons_self _ _
  | @edited mutation next done effect drawn panels source history =>
      simp only [Provenance, replacement?] at came
      have separate :
          (Panel.allIdents session.panels ++ session.assigned (.mutate mutation)).Nodup := by
        obtain ⟨_, newApart, across⟩ := List.nodup_append.mp apart
        refine List.nodup_append.mpr ⟨current.distinct, newApart, ?_⟩
        intro id inside
        exact across id (current.known inside)
      refine whole ⟨?_, came.nodup separate, ?_⟩ history
      · rw [panels]
        exact Mutation.panels_ne_nil_of_effect effect current.present
      · intro id inside
        rcases List.mem_append.mp (came.subset inside) with before | new
        · exact List.mem_append_left _ (current.known before)
        · exact List.mem_append_right _ new
  | traded trades panels source history => exact whole (old _ panels) history
  | replaced replacing some panels source history =>
      simp only [Provenance, replacing] at came
      refine whole ⟨?_, ?_, ?_⟩ history
      · rw [panels]
        exact fun empty => some ((Draft.numberAll_eq_nil_iff _ _).mp empty)
      · rw [came]
        exact (List.nodup_append.mp apart).2.1
      · rw [came]
        exact List.subset_append_right _ _

/-- How many identifiers some operations draw, one after the other. -/
def drawsOver (session : Session σ) : List Operation → Nat
  | [] => 0
  | operation :: rest => session.draws operation + (session.after operation).drawsOver rest

theorem drawsOver_append (session : Session σ) (first second : List Operation) :
    session.drawsOver (first ++ second) =
      session.drawsOver first + (session.run first).drawsOver second := by
  induction first generalizing session with
  | nil => rw [List.nil_append, run_nil, drawsOver, Nat.zero_add]
  | cons operation rest ih =>
      rw [List.cons_append, drawsOver, drawsOver, ih, run_cons, Nat.add_assoc]

theorem source_run (session : Session σ) (operations : List Operation) :
    (session.run operations).source =
      IdSource.advance (session.drawsOver operations) session.source := by
  induction operations generalizing session with
  | nil => rfl
  | cons operation rest ih =>
      rw [run_cons, ih, source_after, drawsOver, IdSource.advance_add]

/-- A session stays sound over a run as long as the source issues nothing twice. -/
theorem sound_run {issued : List String} {session : Session σ} (operations : List Operation)
    (sound : Sound issued session)
    (apart : (issued ++ IdSource.issue (session.drawsOver operations) session.source).Nodup) :
    Sound (issued ++ IdSource.issue (session.drawsOver operations) session.source)
      (session.run operations) := by
  induction operations generalizing issued session with
  | nil => exact sound.mono
  | cons operation rest ih =>
      rw [drawsOver, IdSource.issue_add, ← List.append_assoc, ← source_after] at apart ⊢
      have step := sound_after operation sound (List.nodup_append.mp apart).1
      exact ih step apart

/-- How many identifiers a session draws from its creation on. -/
def drawsFrom (options : SessionOptions) (source : σ) (operations : List Operation) : Nat :=
  1 + (create options source).drawsOver operations

/-- All that a session has drawn is what its source has issued since it was created. -/
theorem source_run_create (options : SessionOptions) (source : σ) (operations : List Operation) :
    ((create options source).run operations).source =
      IdSource.advance (drawsFrom options source operations) source := by
  rw [source_run, drawsFrom, IdSource.advance_add]
  rfl

theorem sound_create (options : SessionOptions) (source : σ) :
    Sound (IdSource.issue 1 source) (create options source) := by
  intro panels inside
  rcases List.mem_singleton.mp inside with rfl
  exact ⟨List.cons_ne_nil _ _, List.nodup_singleton _, List.Subset.refl _⟩

theorem sound_run_create {options : SessionOptions} {source : σ} {operations : List Operation}
    (apart : (IdSource.issue (drawsFrom options source operations) source).Nodup) :
    Sound (IdSource.issue (drawsFrom options source operations) source)
      ((create options source).run operations) := by
  rw [drawsFrom, IdSource.issue_add] at apart ⊢
  exact sound_run operations (sound_create options source) apart

/-- What an operation of a run assigns has not occurred in any state before it. -/
theorem assigned_new {options : SessionOptions} {source : σ} {earlier later first : List Operation}
    {operation : Operation} {id : String} {panels : List Panel}
    (apart : (IdSource.issue (drawsFrom options source (earlier ++ operation :: later))
      source).Nodup)
    (new : id ∈ ((create options source).run earlier).assigned operation)
    (before : first <+: earlier)
    (inside : panels ∈ ((create options source).run first).states) :
    id ∉ Panel.allIdents panels := by
  obtain ⟨between, rfl⟩ := before
  have split : drawsFrom options source (first ++ between ++ operation :: later) =
      drawsFrom options source (first ++ between) +
        (((create options source).run (first ++ between)).draws operation +
          (((create options source).run (first ++ between)).after operation).drawsOver later) := by
    rw [drawsFrom, drawsOver_append, drawsOver, drawsFrom]
    omega
  have fewer : drawsFrom options source first ≤ drawsFrom options source (first ++ between) := by
    rw [drawsFrom, drawsFrom, drawsOver_append]
    omega
  rw [split, IdSource.issue_add, IdSource.issue_add] at apart
  obtain ⟨oldApart, _, across⟩ := List.nodup_append.mp apart
  have sooner := IdSource.issue_prefix fewer source
  have sound := sound_run_create (oldApart.sublist sooner.sublist) panels inside
  intro again
  have old := sooner.subset (sound.known again)
  rw [assigned, source_run_create] at new
  exact across id old id (List.mem_append_left _ new) rfl

/-- Over every run of a session, as long as its source issues nothing twice: there are always panels
and no two of them or their blocks have the same identifier, now and in every snapshot; what an
operation does not draw has been in the panels before it or in the snapshot that it goes to; and
what it draws has not been in any state before. A sequence is such a source. -/
theorem identifiers_of_run :
    (∀ (seed : String) (n : Nat), n < UInt32.size →
      (IdSource.issue n ({ seed } : Sequence)).Nodup) ∧
    ∀ {σ : Type} [IdSource σ] (options : SessionOptions) (source : σ)
      (operations : List Operation),
      (IdSource.issue (drawsFrom options source operations) source).Nodup →
      let reached := (create options source).run
      (reached operations).source =
        IdSource.advance (drawsFrom options source operations) source ∧
      (∀ panels ∈ (reached operations).states,
        panels ≠ [] ∧ (Panel.allIdents panels).Nodup) ∧
      ∀ earlier operation later, operations = earlier ++ operation :: later →
        (reached earlier).Provenance operation ∧
        ∀ id ∈ (reached earlier).assigned operation, ∀ first, first <+: earlier →
          ∀ panels ∈ (reached first).states, id ∉ Panel.allIdents panels := by
  refine ⟨Sequence.nodup_issue, ?_⟩
  intro σ _ options source operations apart
  refine ⟨source_run_create options source operations, ?_, ?_⟩
  · intro panels inside
    have sound := sound_run_create apart panels inside
    exact ⟨sound.present, sound.distinct⟩
  · intro earlier operation later whole
    rw [whole] at apart
    refine ⟨provenance _ operation, ?_⟩
    intro id new first before panels inside
    exact assigned_new apart new before inside

/-- A panel that is copied, taken back and copied again gets other identifiers. -/
theorem identifiers_of_copies :
    let source : Sequence := { seed := "p" }
    let earlier : List Operation :=
      [.mutate (.addBlock "p-1" .title none), .mutate (.duplicatePanel "p-1"), .undo]
    let copy : Operation := .mutate (.duplicatePanel "p-1")
    let before := (create {} source).run earlier
    drawsFrom {} source (earlier ++ [copy]) = 6 ∧
      ((create {} source).run (earlier ++ [copy])).panels.length = 2 ∧
      ∀ id ∈ before.assigned copy, ∀ first, first <+: earlier →
        ∀ panels ∈ ((create {} source).run first).states, id ∉ Panel.allIdents panels := by
  intro source earlier copy before
  have drawn : drawsFrom {} source (earlier ++ [copy]) = 6 := by decide +kernel
  have apart : (IdSource.issue (drawsFrom {} source (earlier ++ [copy])) source).Nodup := by
    rw [drawn]
    exact Sequence.nodup_issue "p" 6 (by decide)
  obtain ⟨_, _, runs⟩ := identifiers_of_run.2 {} source (earlier ++ [copy]) apart
  exact ⟨drawn, by decide +kernel, (runs earlier copy [] rfl).2⟩

end Session

end RichMessage
