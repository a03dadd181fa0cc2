import RichMessage.Proofs.Panel.Effect
import RichMessage.Proofs.Panel.Numbering
import RichMessage.Proofs.Rearrange

set_option autoImplicit false

namespace RichMessage

/-- Some of the old identifiers are kept and the others are gone; what else is there afterwards is
new. -/
def Regrouped (old new after : List String) : Prop :=
  ∃ kept gone, old.Perm (kept ++ gone) ∧ after.Perm (kept ++ new)

namespace Regrouped

variable {old new after : List String}

theorem of_perm (same : after.Perm (old ++ new)) : Regrouped old new after :=
  ⟨old, [], by rw [List.append_nil], same⟩

theorem of_kept (same : after.Perm old) : Regrouped old [] after :=
  .of_perm (by rwa [List.append_nil])

theorem gone (old : List String) : Regrouped old [] [] :=
  ⟨[], old, .refl _, .refl _⟩

/-- What stands around the identifiers that are regrouped is kept. -/
theorem frame (front back : List String) (inner : Regrouped old new after) :
    Regrouped (front ++ old ++ back) new (front ++ after ++ back) := by
  obtain ⟨kept, gone, before, behind⟩ := inner
  have around (part extra : List String) (split : part.Perm (kept ++ extra)) :
      (front ++ part ++ back).Perm (front ++ kept ++ back ++ extra) := by
    have swapped : (extra ++ back).Perm (back ++ extra) := List.perm_append_comm
    have inside := ((split.append_left front).append_right back)
    have moved := swapped.append_left (front ++ kept)
    simp only [List.append_assoc] at inside moved ⊢
    exact inside.trans moved
  exact ⟨front ++ kept ++ back, gone, around old gone before, around after new behind⟩

/-- Identifiers that were all different stay so when the new ones have not been among them. -/
theorem nodup (regrouped : Regrouped old new after) (apart : (old ++ new).Nodup) :
    after.Nodup := by
  obtain ⟨kept, gone, before, behind⟩ := regrouped
  rw [List.nodup_append] at apart
  obtain ⟨oldApart, newApart, across⟩ := apart
  have keptApart : kept.Nodup := (List.nodup_append.mp (before.nodup_iff.mp oldApart)).1
  refine behind.nodup_iff.mpr (List.nodup_append.mpr ⟨keptApart, newApart, ?_⟩)
  intro id isKept other isNew
  exact across id (before.mem_iff.mpr (List.mem_append_left _ isKept)) other isNew

theorem subset (regrouped : Regrouped old new after) : after ⊆ old ++ new := by
  obtain ⟨kept, gone, before, behind⟩ := regrouped
  intro id present
  rcases List.mem_append.mp (behind.mem_iff.mp present) with isKept | isNew
  · exact List.mem_append_left _ (before.mem_iff.mpr (List.mem_append_left _ isKept))
  · exact List.mem_append_right _ isNew

end Regrouped

namespace Mutation

variable {σ : Type} [IdSource σ]

/-- How many identifiers a mutation draws when it is accepted: one for what it adds, and for a copy
of a panel one for each block as well. -/
def draws (panels : List Panel) : Mutation → Nat
  | .addBlock _ _ _ | .duplicateBlock _ _ | .addPanel _ _ => 1
  | .duplicatePanel id =>
    match Located.find? (fun panel : Panel => panel.id == id) panels with
    | some found => found.item.draft.size
    | none => 0
  | .updateBlock _ _ _ | .removeBlock _ _ | .moveBlock _ _ _ => 0
  | .updateSettings _ _ | .removePanel _ | .movePanel _ _ => 0

theorem draws_duplicatePanel {panels : List Panel} {id : String} {found : Located Panel}
    (located : FindsPanel panels id found) :
    (duplicatePanel id).draws panels = found.item.draft.size := by
  simp only [draws]
  rw [located]

theorem regrouped_replace {panels items : List Panel} {id : String} {found : Located Panel}
    {new : List String} (located : FindsPanel panels id found)
    (inner : Regrouped found.item.idents new (Panel.allIdents items)) :
    Regrouped (Panel.allIdents panels) new (Panel.allIdents (found.replace items)) := by
  have framed := inner.frame (Panel.allIdents found.before) (Panel.allIdents found.after)
  rw [← Located.replace_item_of_find? located]
  simpa only [Located.replace, Panel.allIdents_append, Panel.allIdents_cons, Panel.allIdents_nil,
    List.append_nil] using framed

theorem regrouped_withBlocks {panels : List Panel} {id : String} {found : Located Panel}
    {blocks : List Block} {new : List String} (located : FindsPanel panels id found)
    (inner : Regrouped (found.item.blocks.map Block.id) new (blocks.map Block.id)) :
    Regrouped (Panel.allIdents panels) new (Panel.allIdents (withBlocks found blocks)) := by
  apply regrouped_replace located
  have framed := inner.frame [found.item.id] []
  simpa only [Panel.allIdents_cons, Panel.allIdents_nil, Panel.idents, List.append_nil,
    List.singleton_append] using framed

theorem regrouped_blocks {panel : Panel} {items : List Block} {block : String}
    {place : Located Block} {new : List String} (placed : FindsBlock panel block place)
    (inner : Regrouped [place.item.id] new (items.map Block.id)) :
    Regrouped (panel.blocks.map Block.id) new ((place.replace items).map Block.id) := by
  have framed := inner.frame (place.before.map Block.id) (place.after.map Block.id)
  rw [← Located.replace_item_of_find? placed]
  simpa only [Located.replace, List.map_append, List.map_cons, List.map_nil] using framed

/-- An accepted mutation regroups the identifiers of the panels with those that it draws. -/
theorem regrouped_of_effect {mutation : Mutation} {panels : List Panel} {source : σ}
    {done : Mutated σ} (effect : Effect panels source mutation done) :
    Regrouped (Panel.allIdents panels) (IdSource.issue (mutation.draws panels) source)
      (Panel.allIdents done.panels) := by
  cases effect with
  | @addBlock id found kind index located =>
      have perm := (perm_insertClamped found.item.blocks (index.map UInt64.toNat)
        (Block.create (.initial kind found.item.settings.theme) source).1).map Block.id
      rw [List.map_append] at perm
      exact regrouped_withBlocks located (.of_perm perm)
  | updateBlock located placed same =>
      exact regrouped_withBlocks located (regrouped_blocks placed (.of_perm (.refl _)))
  | removeBlock located placed =>
      exact regrouped_withBlocks located (regrouped_blocks placed (.gone _))
  | duplicateBlock located placed =>
      exact regrouped_withBlocks located (regrouped_blocks placed (.of_perm (.refl _)))
  | moveBlock located originInside targetInside =>
      have perm := (perm_moveItem originInside targetInside).map Block.id
      exact regrouped_withBlocks located (.of_kept perm)
  | addPanel index theme =>
      have perm := (perm_insertClamped panels (index.map UInt64.toNat)
        (Panel.empty theme source).1).flatMap_right Panel.idents
      rw [List.flatMap_append] at perm
      exact .of_perm perm
  | updateSettings settings located =>
      apply regrouped_replace located
      rw [Panel.allIdents_cons, Panel.allIdents_nil, List.append_nil]
      exact .of_kept (.refl _)
  | @duplicatePanel id found located =>
      have copied := Draft.idents_number found.item.draft source
      apply regrouped_replace located
      rw [draws_duplicatePanel located, ← copied, Panel.allIdents_cons, Panel.allIdents_cons,
        Panel.allIdents_nil, List.append_nil]
      exact .of_perm (.refl _)
  | removePanel located several =>
      exact regrouped_replace located (.gone _)
  | movePanel originInside targetInside =>
      exact .of_kept ((perm_moveItem originInside targetInside).flatMap_right Panel.idents)

/-- An accepted mutation leaves the source behind the identifiers that it draws. -/
theorem source_of_effect {mutation : Mutation} {panels : List Panel} {source : σ}
    {done : Mutated σ} (effect : Effect panels source mutation done) :
    done.source = IdSource.advance (mutation.draws panels) source := by
  cases effect with
  | @duplicatePanel id found located =>
      rw [draws_duplicatePanel located]
      exact Draft.source_number _ _
  | _ => rfl

/-- An accepted mutation leaves a panel when there has been one. -/
theorem panels_ne_nil_of_effect {mutation : Mutation} {panels : List Panel} {source : σ}
    {done : Mutated σ} (effect : Effect panels source mutation done) (present : panels ≠ []) :
    done.panels ≠ [] := by
  have positive : 0 < panels.length := List.length_pos_iff.mpr present
  rw [← List.length_pos_iff]
  cases effect with
  | addPanel index theme =>
      simp only [length_insertClamped]
      omega
  | removePanel located several =>
      have whole := congrArg List.length (Located.replace_item_of_find? located)
      rw [Located.length_replace, List.length_singleton] at whole
      rw [Located.length_replace, List.length_nil]
      omega
  | movePanel originInside targetInside =>
      rwa [length_moveItem originInside targetInside]
  | _ =>
      simp only [withBlocks, Located.length_replace, List.length_cons]
      omega

/-- Giving a panel other blocks changes the panels, unless they are the blocks that it has. -/
theorem blocks_of_withBlocks_eq {panels : List Panel} {id : String} {found : Located Panel}
    {blocks : List Block} (located : FindsPanel panels id found)
    (same : withBlocks found blocks = panels) : blocks = found.item.blocks := by
  rw [← Located.replace_item_of_find? located] at same
  simp only [withBlocks, Located.replace, List.append_cancel_right_eq, List.append_cancel_left_eq,
    List.cons.injEq, and_true] at same
  exact congrArg Panel.blocks same

/-- What a mutation adds makes the panels longer, so one that leaves them equal draws nothing. -/
theorem source_eq_of_panels_eq {mutation : Mutation} {panels : List Panel} {source : σ}
    {done : Mutated σ} (effect : Effect panels source mutation done)
    (same : done.panels = panels) : done.source = source := by
  cases effect with
  | addBlock kind index located =>
      have length := congrArg List.length (blocks_of_withBlocks_eq located same)
      rw [length_insertClamped] at length
      omega
  | duplicateBlock located placed =>
      have blocks := blocks_of_withBlocks_eq located same
      have length := congrArg List.length (blocks.trans (Located.replace_item_of_find? placed).symm)
      simp only [Located.length_replace, List.length_cons] at length
      omega
  | addPanel index theme =>
      have length := congrArg List.length same
      simp only [length_insertClamped] at length
      omega
  | duplicatePanel located =>
      have length := congrArg List.length (same.trans (Located.replace_item_of_find? located).symm)
      simp only [Located.length_replace, List.length_cons] at length
      omega
  | _ => rfl

end Mutation

end RichMessage
