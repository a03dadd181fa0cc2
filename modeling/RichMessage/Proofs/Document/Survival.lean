import RichMessage.Proofs.Document.RoundTrip

set_option autoImplicit false

namespace RichMessage

namespace Content

/-- Whether a document can say all of a content: a title is large, and the action of a button has no
label of its own. -/
def IsWritable : Content → Prop
  | .title block => block.size.isLarge = true
  | .button block => block.action.label = none
  | _ => True

/-- How a content comes back. -/
structure ComesBackAs (before after : Content) : Prop where
  same : after = before ↔ before.IsWritable
  smallTitle : ∀ block, before = .title block → block.size.isLarge = false →
    after = .text
      { text := block.text, size := some block.size, color := block.color, wrap := true }
  button : ∀ block, before = .button block →
    after = .button { block with action := block.action.unlabelled }

end Content

theorem Action.unlabelled_eq_iff (action : Action) :
    action.unlabelled = action ↔ action.label = none := by
  cases action <;> simp [unlabelled, relabel, label, eq_comm]

namespace Content

theorem comesBackAs_settled (content : Content) : content.ComesBackAs content.settled := by
  cases content with
  | title block =>
      by_cases large : block.size.isLarge = true
      · constructor
        · simp [settled, IsWritable, large]
        · intro other same small
          cases same
          rw [large] at small
          cases small
        · intro other same
          cases same
      · constructor
        · simp [settled, IsWritable, large]
        · intro other same small
          cases same
          rw [settled, if_neg large]
        · intro other same
          cases same
  | button block =>
      constructor
      · have unlabelled := block.action.unlabelled_eq_iff
        obtain ⟨label, style, color, action⟩ := block
        simpa [settled, IsWritable] using unlabelled
      · intro other same
        cases same
      · intro other same
        cases same
        rfl
  | text block | image block | separator =>
      constructor
      · exact iff_of_true rfl trivial
      · intro other same
        cases same
      · intro other same
        cases same

end Content

namespace Panel

variable {σ : Type} [IdSource σ]

/-- The contents that come back, section by section. -/
theorem contents_ofNode_ofPanel (panel : Panel) (source : σ) :
    ∃ back, (ofNode (Document.ofPanels [panel]).toNode source).1 = [back] ∧
      back.blocks.map Block.content =
        panel.sections.header.map (fun block => block.content.readBack true) ++
          panel.sections.body.map (fun block => block.content.settled) ++
          panel.sections.footer.map (fun block => block.content.settled) := by
  have drafts := drafts_ofNode_ofPanels [panel] source
  rw [if_neg (List.cons_ne_nil _ _)] at drafts
  obtain ⟨back, alone, whole⟩ := List.map_eq_singleton_iff.mp drafts
  have contents : back.blocks.map Block.content = panel.draft.readBack.contents :=
    congrArg Draft.contents whole
  refine ⟨back, alone, ?_⟩
  rw [contents, Draft.readBack, draft, Sections.route_map]
  simp only [List.map_map]
  rfl

/-- Behind the blocks of the header come those of the body and then those of the footer, each of
them as it was unless there is no place in a document for all of it. -/
theorem blocks_outside_header_come_back (panel : Panel) (source : σ) :
    ∃ back, (ofNode (Document.ofPanels [panel]).toNode source).1 = [back] ∧
      (∀ i block, panel.sections.body[i]? = some block →
        ∃ after, back.blocks[panel.sections.header.length + i]? = some after ∧
          block.content.ComesBackAs after.content) ∧
      ∀ i block, panel.sections.footer[i]? = some block →
        ∃ after, back.blocks[panel.sections.header.length + panel.sections.body.length + i]? =
            some after ∧
          block.content.ComesBackAs after.content := by
  obtain ⟨back, alone, contents⟩ := contents_ofNode_ofPanel panel source
  have at_ {i : Nat} {block : Block}
      (found : (back.blocks.map Block.content)[i]? = some block.content.settled) :
      ∃ after, back.blocks[i]? = some after ∧ block.content.ComesBackAs after.content := by
    rw [List.getElem?_map] at found
    obtain ⟨after, here, same⟩ := Option.map_eq_some_iff.mp found
    exact ⟨after, here, same ▸ block.content.comesBackAs_settled⟩
  refine ⟨back, alone, ?_, ?_⟩
  · intro i block member
    apply at_
    have inside : i < panel.sections.body.length := (List.getElem?_eq_some_iff.mp member).1
    rw [contents, List.append_assoc, List.getElem?_append_right (by simp),
      List.getElem?_append_left (by simpa using inside)]
    simp [member]
  · intro i block member
    apply at_
    rw [contents, List.getElem?_append_right (by simp)]
    simp [member]

theorem large_title_comes_back :
    let heading : Content := .title { text := "Hours", color := some "#333333" }
    let panel : Panel := ⟨"p-1", {}, [⟨"p-2", .separator⟩, ⟨"p-3", heading⟩]⟩
    let source : Sequence := { seed := "p" }
    ∃ back, (ofNode (Document.ofPanels [panel]).toNode source).1 = [back] ∧
      panel.sections.body[1]? = some ⟨"p-3", heading⟩ ∧
      ∃ after, back.blocks[1]? = some after ∧ after.content = heading := by
  intro heading panel source
  have member : panel.sections.body[1]? = some ⟨"p-3", heading⟩ := rfl
  have noHeader : panel.sections.header.length = 0 := rfl
  have writable : heading.IsWritable := rfl
  obtain ⟨back, alone, body, _⟩ := blocks_outside_header_come_back panel source
  obtain ⟨after, here, comes⟩ := body 1 _ member
  rw [noHeader, Nat.zero_add] at here
  exact ⟨back, alone, member, after, here, comes.same.mpr writable⟩

/-- A title of a usual size comes back as a text, and the label in the action of a button is left
out. -/
theorem small_title_and_labelled_action_change :
    let panel : Panel :=
      { id := "p-1"
        settings := {}
        blocks :=
          [⟨"p-2", .separator⟩, ⟨"p-3", .title { text := "Hours", size := .md }⟩,
            ⟨"p-4", .button
              { label := "Book", action := .uri "https://example.com" (some "Open") }⟩] }
    let source : Sequence := { seed := "p" }
    let back := (ofNode (Document.ofPanels [panel]).toNode source).1
    panel.sections.header = [] ∧
      panel.sections.body.map Block.content =
        [.separator, .title { text := "Hours", size := .md }] ∧
      panel.sections.footer.map Block.content =
        [.button { label := "Book", action := .uri "https://example.com" (some "Open") }] ∧
      back.map (fun panel => panel.blocks.map Block.content) =
        [[.separator, .text { text := "Hours", size := some .md, wrap := true },
          .button { label := "Book", action := .uri "https://example.com" none }]] := by
  decide +kernel

end Panel

end RichMessage
