import RichMessage.Proofs.Ident.Supply
import RichMessage.Proofs.Panel.Effect
import RichMessage.Proofs.Panel.Numbering
import RichMessage.Proofs.Rearrange

set_option autoImplicit false

namespace RichMessage

section Places

variable {α : Type}

/-- The second list has another element at one position and is otherwise the first one. -/
structure ReplacedAt (position : Nat) (old new : α) (items after : List α) : Prop where
  length : after.length = items.length
  was : items[position]? = some old
  here : after[position]? = some new
  elsewhere : ∀ i, i ≠ position → after[i]? = items[i]?

/-- The second list has one element more; those behind it have moved on by one. -/
structure InsertedAt (position : Nat) (item : α) (items larger : List α) : Prop where
  length : larger.length = items.length + 1
  before : ∀ i, i < position → larger[i]? = items[i]?
  here : larger[position]? = some item
  behind : ∀ i, position ≤ i → larger[i + 1]? = items[i]?

/-- One element stands at `origin` in the first list and at `target` in the second, and the others
are in the same order in both. -/
def MovedTo (origin target : Nat) (items after : List α) : Prop :=
  ∃ item others, InsertedAt origin item others items ∧ InsertedAt target item others after

/-- The first element with an identifier stands at a position. -/
structure FirstAt (ident : α → String) (id : String) (items : List α) (position : Nat) (item : α) :
    Prop where
  here : items[position]? = some item
  named : ident item = id
  first : ∀ i other, i < position → items[i]? = some other → ident other ≠ id

theorem replacedAt_append (before after : List α) (old new : α) :
    ReplacedAt before.length old new (before ++ old :: after) (before ++ new :: after) := by
  refine ⟨by simp, by simp, by simp, ?_⟩
  intro i apart
  rcases Nat.lt_or_gt_of_ne apart with below | above
  · rw [List.getElem?_append_left below, List.getElem?_append_left below]
  · obtain ⟨k, rfl⟩ := Nat.exists_eq_add_of_lt above
    rw [List.getElem?_append_right (by omega), List.getElem?_append_right (by omega)]
    simp [Nat.add_assoc]

theorem PutAt.insertedAt {position : Nat} {item : α} {items larger : List α}
    (put : PutAt position item items larger) : InsertedAt position item items larger := by
  have length := put.length
  obtain ⟨before, after, rfl, rfl, rfl⟩ := put
  refine ⟨length, ?_, by simp, ?_⟩
  · intro i below
    rw [List.getElem?_append_left below, List.getElem?_append_left below]
  · intro i above
    rw [List.getElem?_append_right (by omega), List.getElem?_append_right above,
      Nat.sub_add_comm above, List.getElem?_cons_succ]

theorem movedTo_moveItem {items : List α} {origin target : Nat}
    (originInside : origin < items.length) (targetInside : target < items.length) :
    MovedTo origin target items (moveItem items origin target) := by
  have whole : (items.eraseIdx origin).insertIdx origin items[origin] = items :=
    List.insertIdx_eraseIdx_getElem originInside
  have taken := le_length_eraseIdx originInside originInside
  refine ⟨items[origin], items.eraseIdx origin, ?_, ?_⟩
  · have back := (putAt_insertIdx taken items[origin]).insertedAt
    rwa [whole] at back
  · rw [moveItem_eq originInside]
    exact (putAt_insertIdx (le_length_eraseIdx originInside targetInside) _).insertedAt

section Found

variable {ident : α → String} {id : String} {items : List α} {found : Located α}

theorem firstAt_of_find?
    (located : Located.find? (fun item => ident item == id) items = some found) :
    FirstAt ident id items found.before.length found.item := by
  obtain ⟨whole, named, passed⟩ := Located.find?_eq_some_iff.mp located
  refine ⟨by simp [whole], beq_iff_eq.mp named, ?_⟩
  intro i other below there
  rw [whole, List.getElem?_append_left below] at there
  have missed := passed other (List.mem_of_getElem? there)
  exact beq_eq_false_iff_ne.mp missed

theorem replacedAt_replace
    (located : Located.find? (fun item => ident item == id) items = some found) (new : α) :
    ReplacedAt found.before.length found.item new items (found.replace [new]) := by
  have whole := Located.eq_append_of_find? located
  rw [whole, Located.replace, List.append_assoc, List.singleton_append]
  exact replacedAt_append found.before found.after found.item new

end Found

end Places

namespace Mutation

/-- What a block of a kind shows that has just been added to a panel with a theme. -/
inductive IsDefault (theme : String) : BlockKind → Content → Prop
  | title : IsDefault theme .title (.title { text := "タイトル", size := .xl, color := none })
  | text : IsDefault theme .text
      (.text { text := "テキスト", size := none, color := none, wrap := true })
  | image : IsDefault theme .image (.image { url := "", ratio := .twentyThirteen, action := none })
  | button : IsDefault theme .button
      (.button { label := "ボタン", style := .primary, color := some theme, action := .uri "" none })
  | separator : IsDefault theme .separator .separator

/-- The place for something new: an index as far as the list goes, and otherwise the end. -/
def insertionPlace (index : Option UInt64) (length : Nat) : Nat :=
  match index with
  | none => length
  | some index => min index.toNat length

/-- The panel that an identifier names has changed. It has kept its identifier, and all the other
panels are as they were and where they were. -/
def OnPanel (panels after : List Panel) (id : String) (change : Panel → Panel → Prop) : Prop :=
  ∃ position old new,
    FirstAt Panel.id id panels position old ∧ ReplacedAt position old new panels after ∧
      after.map Panel.id = panels.map Panel.id ∧ change old new

/-- Of the panel that an identifier names, only the blocks have changed. -/
def OnBlocks (panels after : List Panel) (id : String) (change : Panel → List Block → Prop) :
    Prop :=
  OnPanel panels after id fun old new =>
    ∃ blocks, new = { old with blocks } ∧ change old blocks

variable {σ : Type} [IdSource σ]

/-- What a mutation changes, from the panels before and the source of identifiers to the outcome. -/
def Changes (panels : List Panel) (source : σ) (done : Mutated σ) : Mutation → Prop
  | .addBlock id kind index =>
    OnBlocks panels done.panels id (fun panel blocks =>
      ∃ content, IsDefault panel.settings.theme kind content ∧ content.kind = kind ∧
        InsertedAt (insertionPlace index panel.blocks.length) ⟨(IdSource.draw source).1, content⟩
          panel.blocks blocks) ∧
    done.created = some (IdSource.draw source).1
  | .updateBlock id block content =>
    OnBlocks panels done.panels id (fun panel blocks =>
      ∃ place old, FirstAt Block.id block panel.blocks place old ∧
        old.content.kind = content.kind ∧
        ReplacedAt place old ⟨old.id, content⟩ panel.blocks blocks) ∧
    done.created = none
  | .removeBlock id block =>
    OnBlocks panels done.panels id (fun panel blocks =>
      ∃ place old, FirstAt Block.id block panel.blocks place old ∧
        InsertedAt place old blocks panel.blocks) ∧
    done.created = none
  | .duplicateBlock id block =>
    OnBlocks panels done.panels id (fun panel blocks =>
      ∃ place old, FirstAt Block.id block panel.blocks place old ∧
        InsertedAt (place + 1) ⟨(IdSource.draw source).1, old.content⟩ panel.blocks blocks) ∧
    done.created = some (IdSource.draw source).1
  | .moveBlock id origin target =>
    OnBlocks panels done.panels id (fun panel blocks =>
      MovedTo origin.toNat target.toNat panel.blocks blocks) ∧
    done.created = none
  | .addPanel index theme =>
    InsertedAt (insertionPlace index panels.length)
      ⟨(IdSource.draw source).1,
        { background := "#FFFFFF", theme := theme.getD "#06C755", size := .mega }, []⟩
      panels done.panels ∧
    done.created = some (IdSource.draw source).1
  | .updateSettings id settings =>
    OnPanel panels done.panels id (fun old new => new = { old with settings }) ∧
    done.created = none
  | .duplicatePanel id =>
    ∃ position old copy, FirstAt Panel.id id panels position old ∧
      InsertedAt (position + 1) copy panels done.panels ∧
      copy.settings = old.settings ∧
      copy.blocks.map Block.content = old.blocks.map Block.content ∧
      copy.idents = IdSource.issue copy.idents.length source ∧
      done.created = some copy.id
  | .removePanel id =>
    ∃ position old, FirstAt Panel.id id panels position old ∧
      InsertedAt position old done.panels panels ∧
      done.created = none
  | .movePanel origin target =>
    MovedTo origin.toNat target.toNat panels done.panels ∧
    done.created = none

theorem isDefault_initial (kind : BlockKind) (theme : String) :
    IsDefault theme kind (.initial kind theme) := by
  cases kind with
  | title => exact .title
  | text => exact .text
  | image => exact .image
  | button => exact .button
  | separator => exact .separator

theorem IsDefault.kind_eq {theme : String} {kind : BlockKind} {content : Content}
    (fresh : IsDefault theme kind content) : content.kind = kind := by
  cases fresh <;> rfl

omit [IdSource σ] in
theorem insertionPlace_eq (index : Option UInt64) (length : Nat) :
    min ((index.map UInt64.toNat).getD length) length = insertionPlace index length := by
  cases index with
  | none => exact Nat.min_self length
  | some index => rfl

theorem insertedAt_insertionPlace {α : Type} (items : List α) (index : Option UInt64) (item : α) :
    InsertedAt (insertionPlace index items.length) item items
      (insertClamped items (index.map UInt64.toNat) item) := by
  rw [← insertionPlace_eq]
  exact (putAt_insertClamped items (index.map UInt64.toNat) item).insertedAt

section Located

variable {panels : List Panel} {id : String} {found : Located Panel}

theorem onPanel_of_findsPanel (located : FindsPanel panels id found) {new : Panel}
    {change : Panel → Panel → Prop} (kept : new.id = found.item.id)
    (changed : change found.item new) : OnPanel panels (found.replace [new]) id change := by
  have whole := Located.eq_append_of_find? located
  have identifiers : (found.replace [new]).map Panel.id = panels.map Panel.id := by
    rw [whole, Located.replace]
    simp only [List.map_append, List.map_cons, kept, List.append_assoc,
      List.cons_append, List.nil_append]
  exact ⟨found.before.length, found.item, new, firstAt_of_find? located,
    replacedAt_replace located new, identifiers, changed⟩

theorem onBlocks_of_findsPanel (located : FindsPanel panels id found) {blocks : List Block}
    {change : Panel → List Block → Prop} (changed : change found.item blocks) :
    OnBlocks panels (withBlocks found blocks) id change :=
  onPanel_of_findsPanel located rfl ⟨blocks, rfl, changed⟩

end Located

/-- A copy of a panel has equal settings and equal contents under identifiers that are all new. -/
theorem duplicate_spec (panel : Panel) (source : σ) :
    let copy := (panel.duplicate source).1
    copy.settings = panel.settings ∧
      copy.blocks.map Block.content = panel.blocks.map Block.content ∧
      copy.idents = IdSource.issue copy.idents.length source := by
  have draft : (panel.duplicate source).1.draft = panel.draft := Draft.draft_number _ source
  have drawn : (panel.duplicate source).1.idents = IdSource.issue panel.draft.size source :=
    Draft.idents_number _ source
  injection draft with settings contents
  refine ⟨settings, contents, ?_⟩
  rw [drawn, IdSource.length_issue]

/-- An accepted mutation changes what it names and nothing else. -/
theorem accepted_changes_only_what_is_named {mutation : Mutation} {panels : List Panel}
    {source : σ} {done : Mutated σ} (accepted : mutation.run panels source = .ok done) :
    mutation.Changes panels source done := by
  cases effect_of_run accepted with
  | addBlock kind index located =>
      have fresh := isDefault_initial kind
      exact ⟨onBlocks_of_findsPanel located
        ⟨_, fresh _, (fresh _).kind_eq, insertedAt_insertionPlace _ index _⟩, rfl⟩
  | updateBlock located placed same =>
      exact ⟨onBlocks_of_findsPanel located
        ⟨_, _, firstAt_of_find? placed, same, replacedAt_replace placed _⟩, rfl⟩
  | removeBlock located placed =>
      exact ⟨onBlocks_of_findsPanel located
        ⟨_, _, firstAt_of_find? placed, (putAt_replace_nil placed).insertedAt⟩, rfl⟩
  | duplicateBlock located placed =>
      exact ⟨onBlocks_of_findsPanel located
        ⟨_, _, firstAt_of_find? placed, (putAt_replace_pair placed _).insertedAt⟩, rfl⟩
  | moveBlock located originInside targetInside =>
      exact ⟨onBlocks_of_findsPanel located (movedTo_moveItem originInside targetInside), rfl⟩
  | addPanel index theme =>
      exact ⟨insertedAt_insertionPlace panels index _, rfl⟩
  | updateSettings settings located =>
      exact ⟨onPanel_of_findsPanel located rfl rfl, rfl⟩
  | duplicatePanel located =>
      obtain ⟨settings, contents, drawn⟩ := duplicate_spec _ source
      exact ⟨_, _, _, firstAt_of_find? located, (putAt_replace_pair located _).insertedAt, settings,
        contents, drawn, rfl⟩
  | removePanel located several =>
      exact ⟨_, _, firstAt_of_find? located, (putAt_replace_nil located).insertedAt, rfl⟩
  | movePanel originInside targetInside =>
      exact ⟨movedTo_moveItem originInside targetInside, rfl⟩

/-- A button goes in front of the only block of the second panel, in the theme of that panel. -/
theorem added_button_leaves_first_panel :
    let first : Panel := ⟨"p", {}, [⟨"b", .separator⟩]⟩
    let second : Panel := ⟨"q", { theme := "#112233" }, [⟨"c", .separator⟩]⟩
    let button : Block := ⟨"new-1", .button
      { label := "ボタン", style := .primary, color := some "#112233", action := .uri "" none }⟩
    let source : Sequence := { seed := "new" }
    ∃ done, (addBlock "q" .button (some 0)).run [first, second] source = .ok done ∧
      done.panels = [first, { second with blocks := [button, ⟨"c", .separator⟩] }] ∧
      (addBlock "q" .button (some 0)).Changes [first, second] source done := by
  intro first second button source
  have ident : (IdSource.draw source).1 = "new-1" := by decide +kernel
  have accepted : (addBlock "q" .button (some 0)).run [first, second] source =
      .ok { panels :=
              [first, { second with
                blocks := [⟨(IdSource.draw source).1, button.content⟩, ⟨"c", .separator⟩] }]
            source := (IdSource.draw source).2
            created := some (IdSource.draw source).1 } := rfl
  refine ⟨_, accepted, ?_, accepted_changes_only_what_is_named accepted⟩
  simp only [ident]
  rfl

end Mutation

end RichMessage
