import RichMessage.Panel.Mutation
import RichMessage.Proofs.Fallible

set_option autoImplicit false

namespace RichMessage

namespace Mutation

variable {σ : Type} [IdSource σ]

abbrev FindsPanel (panels : List Panel) (id : String) (found : Located Panel) : Prop :=
  Located.find? (fun panel : Panel => panel.id == id) panels = some found

abbrev FindsBlock (panel : Panel) (id : String) (place : Located Block) : Prop :=
  Located.find? (fun block : Block => block.id == id) panel.blocks = some place

/-- What each mutation leaves behind when it is accepted. -/
inductive Effect (panels : List Panel) (source : σ) : Mutation → Mutated σ → Prop
  | addBlock {id : String} {found : Located Panel} (kind : BlockKind) (index : Option UInt64)
      (located : FindsPanel panels id found) :
      Effect panels source (.addBlock id kind index)
        (let added := Block.create (.initial kind found.item.settings.theme) source
        { panels :=
            withBlocks found (insertClamped found.item.blocks (index.map UInt64.toNat) added.1)
          source := added.2
          created := some added.1.id })
  | updateBlock {id block : String} {found : Located Panel} {place : Located Block}
      {content : Content} (located : FindsPanel panels id found)
      (placed : FindsBlock found.item block place)
      (same : place.item.content.kind = content.kind) :
      Effect panels source (.updateBlock id block content)
        { panels := withBlocks found (place.replace [{ place.item with content }]), source }
  | removeBlock {id block : String} {found : Located Panel} {place : Located Block}
      (located : FindsPanel panels id found) (placed : FindsBlock found.item block place) :
      Effect panels source (.removeBlock id block)
        { panels := withBlocks found (place.replace []), source }
  | duplicateBlock {id block : String} {found : Located Panel} {place : Located Block}
      (located : FindsPanel panels id found) (placed : FindsBlock found.item block place) :
      Effect panels source (.duplicateBlock id block)
        (let copy := place.item.duplicate source
        { panels := withBlocks found (place.replace [place.item, copy.1])
          source := copy.2
          created := some copy.1.id })
  | moveBlock {id : String} {found : Located Panel} {origin target : UInt64}
      (located : FindsPanel panels id found)
      (originInside : origin.toNat < found.item.blocks.length)
      (targetInside : target.toNat < found.item.blocks.length) :
      Effect panels source (.moveBlock id origin target)
        { panels := withBlocks found (moveItem found.item.blocks origin.toNat target.toNat)
          source }
  | addPanel (index : Option UInt64) (theme : Option String) :
      Effect panels source (.addPanel index theme)
        (let added := Panel.empty theme source
        { panels := insertClamped panels (index.map UInt64.toNat) added.1
          source := added.2
          created := some added.1.id })
  | updateSettings {id : String} {found : Located Panel} (settings : Settings)
      (located : FindsPanel panels id found) :
      Effect panels source (.updateSettings id settings)
        { panels := found.replace [{ found.item with settings }], source }
  | duplicatePanel {id : String} {found : Located Panel} (located : FindsPanel panels id found) :
      Effect panels source (.duplicatePanel id)
        (let copy := found.item.duplicate source
        { panels := found.replace [found.item, copy.1]
          source := copy.2
          created := some copy.1.id })
  | removePanel {id : String} {found : Located Panel} (located : FindsPanel panels id found)
      (several : 1 < panels.length) :
      Effect panels source (.removePanel id) { panels := found.replace [], source }
  | movePanel {origin target : UInt64} (originInside : origin.toNat < panels.length)
      (targetInside : target.toNat < panels.length) :
      Effect panels source (.movePanel origin target)
        { panels := moveItem panels origin.toNat target.toNat, source }

theorem findsPanel_of_locatePanel {panels : List Panel} {id : String} {found : Located Panel}
    (located : locatePanel panels id = .ok found) : FindsPanel panels id found := by
  unfold locatePanel at located
  split at located
  · cases located
    assumption
  · cases located

theorem findsBlock_of_locateBlock {panel : Panel} {id : String} {place : Located Block}
    (placed : locateBlock panel id = .ok place) : FindsBlock panel id place := by
  unfold locateBlock at placed
  split at placed
  · cases placed
    assumption
  · cases placed

theorem lt_of_checkIndex {index : UInt64} {length : Nat} {done : Unit}
    (checked : checkIndex index length = .ok done) : index.toNat < length := by
  unfold checkIndex at checked
  split at checked
  · assumption
  · cases checked

/-- A mutation that has been checked finds everything that it needs. -/
theorem exists_perform_of_validate {mutation : Mutation} {panels : List Panel} {checked : Unit}
    (valid : mutation.validate panels = .ok checked) (source : σ) :
    ∃ done, mutation.perform panels source = .ok done := by
  cases mutation with
  | addBlock | moveBlock | updateSettings | duplicatePanel | removePanel =>
      obtain ⟨found, located, _⟩ := bind_eq_ok_iff.mp valid
      simp only [perform, located]
      exact ⟨_, rfl⟩
  | updateBlock | removeBlock | duplicateBlock =>
      obtain ⟨found, located, rest⟩ := bind_eq_ok_iff.mp valid
      obtain ⟨place, placed, _⟩ := bind_eq_ok_iff.mp rest
      simp only [perform, located, bind, Except.bind, placed]
      exact ⟨_, rfl⟩
  | addPanel | movePanel => exact ⟨_, rfl⟩

/-- A mutation is refused exactly where its check fails. -/
theorem run_eq_error_iff (mutation : Mutation) (panels : List Panel) (source : σ)
    (reason : Refusal) :
    mutation.run panels source = .error reason ↔ mutation.validate panels = .error reason := by
  cases valid : mutation.validate panels with
  | error other => simp only [run, valid, bind, Except.bind, Except.error.injEq]
  | ok checked =>
      obtain ⟨done, performed⟩ := exists_perform_of_validate valid source
      simp only [run, valid, bind, Except.bind, performed, reduceCtorEq]

/-- An accepted mutation has its effect. -/
theorem effect_of_run {mutation : Mutation} {panels : List Panel} {source : σ} {done : Mutated σ}
    (accepted : mutation.run panels source = .ok done) : Effect panels source mutation done := by
  obtain ⟨_, valid, performed⟩ := bind_eq_ok_iff.mp accepted
  cases mutation with
  | addBlock id kind index =>
      obtain ⟨found, located, same⟩ := bind_eq_ok_iff.mp performed
      cases same
      exact .addBlock kind index (findsPanel_of_locatePanel located)
  | updateBlock id block content =>
      obtain ⟨found, located, rest⟩ := bind_eq_ok_iff.mp valid
      obtain ⟨place, placed, checked⟩ := bind_eq_ok_iff.mp rest
      have sameKind : place.item.content.kind = content.kind := by
        split at checked
        · assumption
        · cases checked
      simp only [perform, located, placed, Except.bind, bind, pure, Except.pure] at performed
      cases performed
      exact .updateBlock (findsPanel_of_locatePanel located) (findsBlock_of_locateBlock placed)
        sameKind
  | removeBlock id block =>
      obtain ⟨found, located, rest⟩ := bind_eq_ok_iff.mp performed
      obtain ⟨place, placed, same⟩ := bind_eq_ok_iff.mp rest
      cases same
      exact .removeBlock (findsPanel_of_locatePanel located) (findsBlock_of_locateBlock placed)
  | duplicateBlock id block =>
      obtain ⟨found, located, rest⟩ := bind_eq_ok_iff.mp performed
      obtain ⟨place, placed, same⟩ := bind_eq_ok_iff.mp rest
      cases same
      exact .duplicateBlock (findsPanel_of_locatePanel located) (findsBlock_of_locateBlock placed)
  | moveBlock id origin target =>
      obtain ⟨found, located, rest⟩ := bind_eq_ok_iff.mp valid
      obtain ⟨_, originInside, targetInside⟩ := bind_eq_ok_iff.mp rest
      simp only [perform, located, Except.bind, bind, pure, Except.pure] at performed
      cases performed
      exact .moveBlock (findsPanel_of_locatePanel located) (lt_of_checkIndex originInside)
        (lt_of_checkIndex targetInside)
  | addPanel index theme =>
      cases performed
      exact .addPanel index theme
  | updateSettings id settings =>
      obtain ⟨found, located, same⟩ := bind_eq_ok_iff.mp performed
      cases same
      exact .updateSettings settings (findsPanel_of_locatePanel located)
  | duplicatePanel id =>
      obtain ⟨found, located, same⟩ := bind_eq_ok_iff.mp performed
      cases same
      exact .duplicatePanel (findsPanel_of_locatePanel located)
  | removePanel id =>
      obtain ⟨found, located, same⟩ := bind_eq_ok_iff.mp performed
      cases same
      obtain ⟨_, _, checked⟩ := bind_eq_ok_iff.mp valid
      have several : 1 < panels.length := by
        split at checked
        · cases checked
        · omega
      exact .removePanel (findsPanel_of_locatePanel located) several
  | movePanel origin target =>
      cases performed
      obtain ⟨_, originInside, targetInside⟩ := bind_eq_ok_iff.mp valid
      exact .movePanel (lt_of_checkIndex originInside) (lt_of_checkIndex targetInside)

omit [IdSource σ] in
theorem locatePanel_of_findsPanel {panels : List Panel} {id : String} {found : Located Panel}
    (located : FindsPanel panels id found) : locatePanel panels id = .ok found := by
  rw [locatePanel, located]

omit [IdSource σ] in
theorem locateBlock_of_findsBlock {panel : Panel} {id : String} {place : Located Block}
    (placed : FindsBlock panel id place) : locateBlock panel id = .ok place := by
  rw [locateBlock, placed]

omit [IdSource σ] in
theorem checkIndex_of_lt {index : UInt64} {length : Nat} (inside : index.toNat < length) :
    checkIndex index length = .ok () := by
  rw [checkIndex, if_pos inside]

/-- A mutation that finds all that it needs is accepted. -/
theorem run_of_effect {mutation : Mutation} {panels : List Panel} {source : σ} {done : Mutated σ}
    (effect : Effect panels source mutation done) : mutation.run panels source = .ok done := by
  cases effect with
  | addBlock kind index located =>
      simp only [run, validate, perform, locatePanel_of_findsPanel located]
      rfl
  | updateBlock located placed same =>
      simp only [run, validate, perform, locatePanel_of_findsPanel located,
        locateBlock_of_findsBlock placed, bind, Except.bind, if_pos same]
      rfl
  | removeBlock located placed =>
      simp only [run, validate, perform, locatePanel_of_findsPanel located,
        locateBlock_of_findsBlock placed, bind, Except.bind]
      rfl
  | duplicateBlock located placed =>
      simp only [run, validate, perform, locatePanel_of_findsPanel located,
        locateBlock_of_findsBlock placed, bind, Except.bind]
      rfl
  | moveBlock located originInside targetInside =>
      simp only [run, validate, perform, locatePanel_of_findsPanel located,
        checkIndex_of_lt originInside, checkIndex_of_lt targetInside, bind, Except.bind]
      rfl
  | addPanel index theme => rfl
  | updateSettings settings located =>
      simp only [run, validate, perform, locatePanel_of_findsPanel located]
      rfl
  | duplicatePanel located =>
      simp only [run, validate, perform, locatePanel_of_findsPanel located]
      rfl
  | removePanel located several =>
      have enough : ¬ panels.length ≤ 1 := by omega
      simp only [run, validate, perform, locatePanel_of_findsPanel located, bind, Except.bind,
        if_neg enough]
      rfl
  | movePanel originInside targetInside =>
      simp only [run, validate, perform, checkIndex_of_lt originInside,
        checkIndex_of_lt targetInside, bind, Except.bind]
      rfl

end Mutation

end RichMessage
