import RichMessage.Proofs.Panel.ByPosition
import RichMessage.Proofs.Panel.Identifiers

set_option autoImplicit false

namespace RichMessage

namespace Mutation

open ByPosition

/-- Whether a mutation adds a panel or a block, whose identifier it answers. -/
def Adds : Mutation → Prop
  | .addBlock _ _ _ | .duplicateBlock _ _ | .addPanel _ _ | .duplicatePanel _ => True
  | .updateBlock _ _ _ | .removeBlock _ _ | .moveBlock _ _ _ | .updateSettings _ _
  | .removePanel _ | .movePanel _ _ => False

variable {σ : Type} [IdSource σ]

theorem created_isSome_iff {mutation : Mutation} {panels : List Panel} {source : σ}
    {done : Mutated σ} (effect : Effect panels source mutation done) :
    done.created.isSome ↔ mutation.Adds := by
  cases effect <;> simp [Adds]

/-- The identifier of what a mutation adds is the first that it draws. -/
theorem created_mem_issue {mutation : Mutation} {panels : List Panel} {source : σ}
    {done : Mutated σ} (effect : Effect panels source mutation done) {id : String}
    (created : done.created = some id) : id ∈ IdSource.issue (mutation.draws panels) source := by
  cases effect with
  | addBlock | duplicateBlock | addPanel =>
      cases created
      exact List.mem_cons_self
  | duplicatePanel located =>
      cases created
      rw [draws_duplicatePanel located]
      exact List.mem_cons_self
  | updateBlock | removeBlock | moveBlock | updateSettings | removePanel | movePanel =>
      cases created

theorem created_mem_allIdents {mutation : Mutation} {panels : List Panel} {source : σ}
    {done : Mutated σ} (effect : Effect panels source mutation done) {id : String}
    (created : done.created = some id) : id ∈ Panel.allIdents done.panels := by
  obtain ⟨kept, gone, _, after⟩ := regrouped_of_effect effect
  have drawn := created_mem_issue effect created
  exact after.mem_iff.mpr (List.mem_append_right kept drawn)

theorem runByPosition_of_error {mutation : Mutation} {panels : List Panel} {reason : Refusal}
    (invalid : mutation.validate panels = .error reason) (source : σ) :
    mutation.checkByPosition panels = .error (.refused reason) ∧
      mutation.runByPosition.run ⟨panels, source⟩ = .error (.refused reason) ⟨panels, source⟩ := by
  have refused : mutation.checkByPosition panels = .error (.refused reason) := by
    rw [checkByPosition_eq, invalid]
    rfl
  refine ⟨refused, ?_⟩
  simp only [runByPosition, EStateM.run_bind, EStateM.run_get, InPlace.run_require, refused]

/-- Checked and done in place, by position, a mutation comes to what it gives as a value. -/
theorem runByPosition_of_ok {mutation : Mutation} {panels : List Panel} {checked : Unit}
    (valid : mutation.validate panels = .ok checked) (source : σ) :
    mutation.checkByPosition panels = .ok () ∧
      ∃ done, mutation.run panels source = .ok done ∧
        mutation.writeByPosition.run ⟨panels, source⟩ =
          .ok done.created ⟨done.panels, done.source⟩ ∧
        mutation.runByPosition.run ⟨panels, source⟩ =
          .ok done.created ⟨done.panels, done.source⟩ := by
  have passed : mutation.checkByPosition panels = .ok () := by
    rw [checkByPosition_eq, valid]
    rfl
  obtain ⟨done, performed⟩ := exists_perform_of_validate valid source
  have accepted : mutation.run panels source = .ok done := by
    rw [run, valid]
    exact performed
  have written := run_writeByPosition (effect_of_run accepted)
  refine ⟨passed, done, accepted, written, ?_⟩
  simp only [runByPosition, EStateM.run_bind, EStateM.run_get, InPlace.run_require, passed]
  exact written

/-- A mutation is done exactly if it passes its check; otherwise it is refused for the same reason
and nothing has happened. It never goes outside of a list. One that passes the check finds all that
it looks for, and answers the identifier of what it adds, if it adds anything. -/
theorem mutation_done_iff_checked (mutation : Mutation) (panels : List Panel) (source : σ) :
    mutation.checkByPosition panels = (mutation.validate panels).mapError .refused ∧
    (∀ halt left, mutation.runByPosition.run ⟨panels, source⟩ = .error halt left ↔
      mutation.checkByPosition panels = .error halt ∧ left = ⟨panels, source⟩) ∧
    ((∃ created left, mutation.runByPosition.run ⟨panels, source⟩ = .ok created left) ↔
      mutation.checkByPosition panels = .ok ()) ∧
    (∀ position length left,
      mutation.runByPosition.run ⟨panels, source⟩ ≠ .error (.outside position length) left) ∧
    (mutation.checkByPosition panels = .ok () →
      ∃ created left, mutation.writeByPosition.run ⟨panels, source⟩ = .ok created left ∧
        mutation.runByPosition.run ⟨panels, source⟩ = .ok created left ∧
        mutation.run panels source =
          .ok { panels := left.panels, source := left.source, created } ∧
        (created.isSome ↔ mutation.Adds) ∧
        ∀ id, created = some id → id ∈ Panel.allIdents left.panels) := by
  refine ⟨checkByPosition_eq mutation panels, ?_⟩
  cases valid : mutation.validate panels with
  | error reason =>
      obtain ⟨refused, left⟩ := runByPosition_of_error valid source
      rw [refused, left]
      refine ⟨?_, by simp, by simp, ?_⟩
      · intro halt desk
        simp only [EStateM.Result.error.injEq, Except.error.injEq, eq_comm]
      · intro passed
        cases passed
  | ok checked =>
      obtain ⟨passed, done, accepted, written, whole⟩ := runByPosition_of_ok valid source
      have effect := effect_of_run accepted
      rw [passed, whole]
      refine ⟨by simp, by simp, by simp, ?_⟩
      intro _
      exact ⟨done.created, ⟨done.panels, done.source⟩, written, rfl, accepted,
        created_isSome_iff effect, fun id created => created_mem_allIdents effect created⟩

/-- Where two panels have one identifier, a block of the first one can be copied, and a block of the
second one is not found. -/
theorem first_panel_of_identifier_is_meant :
    let first : Panel := ⟨"p", {}, [⟨"b", .separator⟩]⟩
    let second : Panel := ⟨"p", {}, [⟨"c", .separator⟩]⟩
    let desk : Desk Sequence := ⟨[first, second], { seed := "new" }⟩
    (duplicateBlock "p" "b").checkByPosition desk.panels = .ok () ∧
      (∃ id left, (duplicateBlock "p" "b").runByPosition.run desk = .ok (some id) left ∧
        id ∈ Panel.allIdents left.panels) ∧
      (duplicateBlock "p" "c").runByPosition.run desk =
        .error (.refused (.blockNotFound "c")) desk := by
  intro first second desk
  have passed : (duplicateBlock "p" "b").checkByPosition desk.panels = .ok () := rfl
  have refused : (duplicateBlock "p" "c").checkByPosition desk.panels =
      .error (.refused (.blockNotFound "c")) := rfl
  obtain ⟨_, _, _, _, done⟩ :=
    mutation_done_iff_checked (duplicateBlock "p" "b") desk.panels desk.source
  obtain ⟨created, left, _, whole, _, adds, present⟩ := done passed
  obtain ⟨id, named⟩ := Option.isSome_iff_exists.mp (adds.mpr trivial)
  obtain ⟨_, failures, _⟩ :=
    mutation_done_iff_checked (duplicateBlock "p" "c") desk.panels desk.source
  rw [named] at whole
  exact ⟨passed, ⟨id, left, whole, present id named⟩, (failures _ _).mpr ⟨refused, rfl⟩⟩

end Mutation

end RichMessage
