import RichMessage.Proofs.Panel.Effect
import RichMessage.Proofs.Panel.Numbering
import RichMessage.Proofs.Rearrange

set_option autoImplicit false

namespace RichMessage

section Lists

variable {α : Type} {items larger : List α} {item : α}

/-- An element whose identifier is new is found where it was put in, and without it the list is what
it was. -/
theorem PutAt.find? {ident : α → String} {position : Nat} (put : PutAt position item items larger)
    (fresh : ident item ∉ items.map ident) :
    ∃ found, Located.find? (fun other => ident other == ident item) larger = some found ∧
      found.replace [] = items := by
  obtain ⟨before, after, _, rfl, rfl⟩ := put
  refine ⟨⟨before, item, after⟩, ?_, ?_⟩
  · apply Located.find?_eq_some_iff.mpr
    refine ⟨rfl, beq_self_eq_true (ident item), ?_⟩
    intro other member
    apply beq_eq_false_iff_ne.mpr
    intro same
    have used := List.mem_map_of_mem (f := ident) (List.mem_append_left after member)
    exact fresh (same ▸ used)
  · rw [Located.replace, List.append_nil]

theorem exists_find?_of_mem {property : α → Bool} (member : item ∈ items)
    (holds : property item = true) : ∃ found, Located.find? property items = some found := by
  induction items with
  | nil => cases member
  | cons first rest ih =>
      by_cases hit : property first = true
      · exact ⟨_, by rw [Located.find?, if_pos hit]⟩
      · have later : item ∈ rest := by
          rcases List.mem_cons.mp member with rfl | later
          · exact absurd holds hit
          · exact later
        obtain ⟨found, located⟩ := ih later
        exact ⟨_, by rw [Located.find?, if_neg hit, located, Option.map_some]⟩

/-- An element that still has the property is found in the place of the first one. -/
theorem find?_replace {property : α → Bool} {found : Located α}
    (located : Located.find? property items = some found) {new : α}
    (holds : property new = true) :
    Located.find? property (found.replace [new]) = some { found with item := new } := by
  obtain ⟨_, _, passed⟩ := Located.find?_eq_some_iff.mp located
  apply Located.find?_eq_some_iff.mpr
  refine ⟨?_, holds, passed⟩
  rw [Located.replace, List.append_assoc, List.singleton_append]

end Lists

namespace Mutation

variable {σ : Type} [IdSource σ]

/-- A mutation is accepted and creates something, and its removal is accepted and gives back the
panels. -/
def UndoneBy (panels : List Panel) (source : σ) (creation : Mutation)
    (removal : String → Mutation) : Prop :=
  ∃ done id, creation.run panels source = .ok done ∧ done.created = some id ∧
    (removal id).run done.panels done.source = .ok { panels, source := done.source }

section Located

variable {panels : List Panel} {id : String} {found : Located Panel}

omit [IdSource σ] in
theorem exists_findsPanel (present : id ∈ panels.map Panel.id) :
    ∃ found, FindsPanel panels id found := by
  obtain ⟨panel, member, rfl⟩ := List.mem_map.mp present
  exact exists_find?_of_mem member (beq_self_eq_true panel.id)

omit [IdSource σ] in
theorem exists_findsBlock {panel : Panel} {block : String}
    (present : block ∈ panel.blocks.map Block.id) : ∃ place, FindsBlock panel block place := by
  obtain ⟨other, member, rfl⟩ := List.mem_map.mp present
  exact exists_find?_of_mem member (beq_self_eq_true other.id)

theorem findsPanel_withBlocks (located : FindsPanel panels id found) (blocks : List Block) :
    FindsPanel (withBlocks found blocks) id { found with item := { found.item with blocks } } := by
  obtain ⟨_, named, _⟩ := Located.find?_eq_some_iff.mp located
  exact find?_replace located named

theorem withBlocks_back (located : FindsPanel panels id found) (blocks : List Block) :
    withBlocks { found with item := { found.item with blocks } } found.item.blocks = panels :=
  Located.replace_item_of_find? located

theorem fresh_in_blocks (located : FindsPanel panels id found) {new : String}
    (fresh : new ∉ Panel.allIdents panels) : new ∉ found.item.blocks.map Block.id := by
  have whole := Located.eq_append_of_find? located
  intro used
  apply fresh
  rw [whole, Panel.allIdents_append, Panel.allIdents_cons]
  apply List.mem_append_right
  apply List.mem_append_left
  exact List.mem_cons_of_mem _ used

/-- A block that was put into a panel under a new identifier can be removed. -/
theorem run_removeBlock_of_put (located : FindsPanel panels id found) {block : Block}
    {blocks : List Block} {position : Nat} (put : PutAt position block found.item.blocks blocks)
    (fresh : block.id ∉ found.item.blocks.map Block.id) (source : σ) :
    (removeBlock id block.id).run (withBlocks found blocks) source =
      .ok { panels, source } := by
  obtain ⟨place, placed, rest⟩ := put.find? fresh
  have effect : Effect (withBlocks found blocks) source (.removeBlock id block.id) _ :=
    .removeBlock (findsPanel_withBlocks located blocks) placed
  have accepted := run_of_effect effect
  rwa [rest, withBlocks_back located] at accepted

/-- A moved block can be moved back: its panel still has as many blocks, so both positions are in
range once more. -/
theorem run_moveBlock_back (located : FindsPanel panels id found) {origin target : UInt64}
    (originInside : origin.toNat < found.item.blocks.length)
    (targetInside : target.toNat < found.item.blocks.length) (source : σ) :
    (moveBlock id target origin).run
        (withBlocks found (moveItem found.item.blocks origin.toNat target.toNat)) source =
      .ok { panels, source } := by
  have length := length_moveItem originInside targetInside
  have relocated := findsPanel_withBlocks located
    (moveItem found.item.blocks origin.toNat target.toNat)
  have back := withBlocks_back located (moveItem found.item.blocks origin.toNat target.toNat)
  have effect : Effect (withBlocks found (moveItem found.item.blocks origin.toNat target.toNat))
      source (.moveBlock id target origin) _ :=
    .moveBlock relocated (length.symm ▸ targetInside) (length.symm ▸ originInside)
  have accepted := run_of_effect effect
  dsimp only at accepted back
  rwa [moveItem_moveItem originInside targetInside, back] at accepted

end Located

/-- A panel that was put in under a new identifier can be removed where there are others. -/
theorem run_removePanel_of_put {panels larger : List Panel} (present : panels ≠ []) {panel : Panel}
    {position : Nat} (put : PutAt position panel panels larger)
    (fresh : panel.id ∉ panels.map Panel.id) (source : σ) :
    (removePanel panel.id).run larger source = .ok { panels, source } := by
  have several : 1 < larger.length := by
    have others := List.length_pos_iff.mpr present
    have length := put.length
    omega
  obtain ⟨found, located, rest⟩ := put.find? fresh
  have effect : Effect larger source (.removePanel panel.id) _ := .removePanel located several
  have accepted := run_of_effect effect
  rwa [rest] at accepted

theorem run_movePanel_back {panels : List Panel} {origin target : UInt64}
    (originInside : origin.toNat < panels.length) (targetInside : target.toNat < panels.length)
    (source : σ) :
    (movePanel target origin).run (moveItem panels origin.toNat target.toNat) source =
      .ok { panels, source } := by
  have length := length_moveItem originInside targetInside
  have effect : Effect (moveItem panels origin.toNat target.toNat) source
      (.movePanel target origin) _ :=
    .movePanel (length.symm ▸ targetInside) (length.symm ▸ originInside)
  have accepted := run_of_effect effect
  rwa [moveItem_moveItem originInside targetInside] at accepted

/-- What a mutation has created or moved is undone by a mutation: created blocks and panels by their
removal, moves by moving back. All that is asked of the identifiers is that the next one is new. -/
theorem creations_and_moves_are_undone (panels : List Panel) (source : σ) (present : panels ≠ [])
    (fresh : (IdSource.draw source).1 ∉ Panel.allIdents panels) :
    (∀ id kind index, id ∈ panels.map Panel.id →
      UndoneBy panels source (.addBlock id kind index) (.removeBlock id)) ∧
    (∀ id block found, FindsPanel panels id found → block ∈ found.item.blocks.map Block.id →
      UndoneBy panels source (.duplicateBlock id block) (.removeBlock id)) ∧
    (∀ index theme, UndoneBy panels source (.addPanel index theme) .removePanel) ∧
    (∀ id, id ∈ panels.map Panel.id →
      UndoneBy panels source (.duplicatePanel id) .removePanel) ∧
    (∀ id origin target done, (moveBlock id origin target).run panels source = .ok done →
      (moveBlock id target origin).run done.panels done.source =
        .ok { panels, source := done.source }) ∧
    (∀ origin target done, (movePanel origin target).run panels source = .ok done →
      (movePanel target origin).run done.panels done.source =
        .ok { panels, source := done.source }) := by
  have freshPanel : (IdSource.draw source).1 ∉ panels.map Panel.id := by
    intro used
    obtain ⟨panel, member, same⟩ := List.mem_map.mp used
    apply fresh
    exact List.mem_flatMap.mpr ⟨panel, member, same ▸ List.mem_cons_self⟩
  refine ⟨?_, ?_, ?_, ?_, ?_, ?_⟩
  · intro id kind index named
    obtain ⟨found, located⟩ := exists_findsPanel named
    refine ⟨_, _, run_of_effect (.addBlock kind index located), rfl, ?_⟩
    exact run_removeBlock_of_put located (putAt_insertClamped _ _ _)
      (fresh_in_blocks located fresh) _
  · intro id block found located named
    obtain ⟨place, placed⟩ := exists_findsBlock named
    refine ⟨_, _, run_of_effect (.duplicateBlock located placed), rfl, ?_⟩
    exact run_removeBlock_of_put located (putAt_replace_pair placed _)
      (fresh_in_blocks located fresh) _
  · intro index theme
    refine ⟨_, _, run_of_effect (.addPanel index theme), rfl, ?_⟩
    exact run_removePanel_of_put present (putAt_insertClamped _ _ _) freshPanel _
  · intro id named
    obtain ⟨found, located⟩ := exists_findsPanel named
    refine ⟨_, _, run_of_effect (.duplicatePanel located), rfl, ?_⟩
    exact run_removePanel_of_put present (putAt_replace_pair located _) freshPanel _
  · intro id origin target done accepted
    cases effect_of_run accepted with
    | moveBlock located originInside targetInside =>
        exact run_moveBlock_back located originInside targetInside source
  · intro origin target done accepted
    cases effect_of_run accepted with
    | movePanel originInside targetInside =>
        exact run_movePanel_back originInside targetInside source

/-- Identifiers that occur twice are no obstacle: the copy of a block is taken out again, and so is
a panel that was put in between. -/
theorem copies_are_undone_among_equal_identifiers :
    let panel : Panel := ⟨"p", {}, [⟨"b", .separator⟩, ⟨"b", .plainText "t"⟩]⟩
    let panels := [panel, { panel with blocks := [] }]
    let source : Sequence := { seed := "new" }
    panels ≠ [] ∧ (IdSource.draw source).1 ∉ Panel.allIdents panels ∧
      UndoneBy panels source (.duplicateBlock "p" "b") (.removeBlock "p") ∧
      UndoneBy panels source (.addPanel (some 1) none) .removePanel ∧
      ∃ done, (moveBlock "p" 0 1).run panels source = .ok done ∧
        (moveBlock "p" 1 0).run done.panels done.source =
          .ok { panels, source := done.source } := by
  intro panel panels source
  have present : panels ≠ [] := List.cons_ne_nil _ _
  have fresh : (IdSource.draw source).1 ∉ Panel.allIdents panels := by decide +kernel
  obtain ⟨_, copied, added, _, moved, _⟩ :=
    creations_and_moves_are_undone panels source present fresh
  have located : FindsPanel panels "p" ⟨[], panel, [{ panel with blocks := [] }]⟩ := rfl
  have named : "b" ∈ panel.blocks.map Block.id := List.mem_cons_self
  have accepted : (moveBlock "p" 0 1).run panels source = .ok
      { panels := withBlocks ⟨[], panel, [{ panel with blocks := [] }]⟩
          (moveItem panel.blocks 0 1)
        source } := rfl
  exact ⟨present, fresh, copied "p" "b" _ located named, added _ _, _, accepted,
    moved "p" 0 1 _ accepted⟩

end Mutation

end RichMessage
