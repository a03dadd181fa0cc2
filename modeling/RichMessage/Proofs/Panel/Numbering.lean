import RichMessage.Panel.Basic
import RichMessage.Proofs.Ident.Supply

set_option autoImplicit false

namespace RichMessage

namespace Panel

/-- The identifiers of a panel: its own and those of its blocks. -/
def idents (panel : Panel) : List String :=
  panel.id :: panel.blocks.map Block.id

def allIdents (panels : List Panel) : List String :=
  panels.flatMap idents

@[simp] theorem allIdents_nil : allIdents [] = [] := rfl

@[simp] theorem allIdents_cons (panel : Panel) (rest : List Panel) :
    allIdents (panel :: rest) = panel.idents ++ allIdents rest :=
  List.flatMap_cons

@[simp] theorem allIdents_append (first second : List Panel) :
    allIdents (first ++ second) = allIdents first ++ allIdents second :=
  List.flatMap_append

/-- There is one identifier for each panel and one for each block. -/
theorem length_allIdents (panels : List Panel) :
    (allIdents panels).length = panels.length + (panels.flatMap Panel.blocks).length := by
  induction panels with
  | nil => rfl
  | cons panel rest ih =>
      simp only [allIdents_cons, List.length_append, idents, List.length_cons, List.length_map, ih,
        List.flatMap_cons]
      omega

end Panel

namespace Draft

variable {σ : Type} [IdSource σ]

theorem contents_numberContents (contents : List Content) (source : σ) :
    (numberContents contents source).1.map Block.content = contents := by
  induction contents generalizing source with
  | nil => rfl
  | cons content rest ih =>
      simp only [numberContents, List.map_cons, ih]

/-- Contents that are numbered in two parts are numbered one part after the other. -/
theorem numberContents_append (first second : List Content) (source : σ) :
    numberContents (first ++ second) source =
      let (blocks, left) := numberContents first source
      let (others, left) := numberContents second left
      (blocks ++ others, left) := by
  induction first generalizing source with
  | nil => rfl
  | cons content rest ih =>
      simp only [List.cons_append, numberContents, ih]

theorem draft_number (draft : Draft) (source : σ) : (draft.number source).1.draft = draft := by
  simp only [number, Panel.draft, contents_numberContents]

/-- The panels of some drafts are these drafts again without their identifiers. -/
theorem drafts_numberAll (drafts : List Draft) (source : σ) :
    (numberAll drafts source).1.map Panel.draft = drafts := by
  induction drafts generalizing source with
  | nil => rfl
  | cons draft rest ih =>
      simp only [numberAll, List.map_cons, ih, draft_number]

/-- How many identifiers a draft gets: one for the panel and one for each block. -/
def size (draft : Draft) : Nat :=
  draft.contents.length + 1

def totalSize : List Draft → Nat
  | [] => 0
  | draft :: rest => draft.size + totalSize rest

theorem ids_numberContents (contents : List Content) (source : σ) :
    (numberContents contents source).1.map Block.id = IdSource.issue contents.length source := by
  induction contents generalizing source with
  | nil => rfl
  | cons content rest ih =>
      simp only [numberContents, List.map_cons, List.length_cons, IdSource.issue, ih]

theorem source_numberContents (contents : List Content) (source : σ) :
    (numberContents contents source).2 = IdSource.advance contents.length source := by
  induction contents generalizing source with
  | nil => rfl
  | cons content rest ih =>
      simp only [numberContents, List.length_cons, IdSource.advance, ih]

theorem idents_number (draft : Draft) (source : σ) :
    (draft.number source).1.idents = IdSource.issue draft.size source := by
  simp only [number, Panel.idents, ids_numberContents, size, IdSource.issue]

theorem source_number (draft : Draft) (source : σ) :
    (draft.number source).2 = IdSource.advance draft.size source := by
  simp only [number, source_numberContents, size, IdSource.advance]

/-- The panels of some drafts have the identifiers that the source issues next. -/
theorem allIdents_numberAll (drafts : List Draft) (source : σ) :
    Panel.allIdents (numberAll drafts source).1 = IdSource.issue (totalSize drafts) source := by
  induction drafts generalizing source with
  | nil => rfl
  | cons draft rest ih =>
      have front := idents_number draft source
      have left := source_number draft source
      rw [totalSize, IdSource.issue_add, ← front, ← left]
      exact congrArg (_ ++ ·) (ih (draft.number source).2)

theorem source_numberAll (drafts : List Draft) (source : σ) :
    (numberAll drafts source).2 = IdSource.advance (totalSize drafts) source := by
  induction drafts generalizing source with
  | nil => rfl
  | cons draft rest ih =>
      have left := source_number draft source
      rw [totalSize, IdSource.advance_add, ← left]
      exact ih (draft.number source).2

theorem numberContents_recorder (contents : List Content) (recorder : Recorder σ) :
    (numberContents contents recorder).1 = (numberContents contents recorder.source).1 := by
  induction contents generalizing recorder with
  | nil => rfl
  | cons content rest ih =>
      simp only [numberContents, ih]
      rfl

theorem number_recorder (draft : Draft) (recorder : Recorder σ) :
    (draft.number recorder).1 = (draft.number recorder.source).1 := by
  simp only [number, numberContents_recorder]
  rfl

/-- Keeping a record changes nothing about the panels. -/
theorem numberAll_recorder (drafts : List Draft) (recorder : Recorder σ) :
    (numberAll drafts recorder).1 = (numberAll drafts recorder.source).1 := by
  induction drafts generalizing recorder with
  | nil => rfl
  | cons draft rest ih =>
      have left : (draft.number recorder).2.source = (draft.number recorder.source).2 := by
        rw [source_number, source_number, Recorder.advance_eq]
      simp only [numberAll, number_recorder, ih, left]

theorem numberAll_eq_nil_iff (drafts : List Draft) (source : σ) :
    (numberAll drafts source).1 = [] ↔ drafts = [] := by
  rw [← List.map_eq_nil_iff, drafts_numberAll]

end Draft

end RichMessage
