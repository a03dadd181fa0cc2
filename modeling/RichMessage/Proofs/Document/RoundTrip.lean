import RichMessage.Proofs.Document.Elements
import RichMessage.Proofs.Panel.Numbering
import RichMessage.Proofs.Panel.Routing

set_option autoImplicit false

namespace RichMessage

open Json

namespace Content

variable {inHeader : Bool}

/-- What a content becomes when it is written to a document: without a large size a title is an
ordinary text that wraps, and the action of a button has no label beside that of the button. -/
def settled : Content → Content
  | .title block =>
    if block.size.isLarge then .title block
    else .text { text := block.text, size := some block.size, color := block.color, wrap := true }
  | .text block => .text block
  | .image block => .image block
  | .button block => .button { block with action := block.action.unlabelled }
  | .separator => .separator

/-- The same content with the color of its text left open. -/
def uncolored : Content → Content
  | .title block => .title { block with color := none }
  | .text block => .text { block with color := none }
  | content => content

/-- What a content of a section is read back as. -/
def readBack (inHeader : Bool) (content : Content) : Content :=
  if inHeader then content.settled.uncolored else content.settled

theorem ofElement_title (block : TitleBlock) (depth : Nat) :
    ofElement inHeader depth ((Content.title block).element inHeader).toNode =
      [(Content.title block).readBack inHeader] := by
  rw [element, ofElement_of_showsText (showsText_toNode _)]
  simp only [ofTextElement, readBack, settled, Bool.true_and]
  cases inHeader <;> cases block.size.isLarge <;> rfl

/-- A bulleted line is written as a row of two texts, which are taken together again. -/
theorem ofElement_bulletLine {bullet label : String} (glyph : Bullet.isBullet bullet = true)
    (words : Bullet.isLabel label = true) (block : TextBlock) (color : Option String)
    (depth : Nat) :
    ofElement inHeader (depth + 1) (bulletLine bullet label block color).toNode =
      [.text
        { text := Bullet.join bullet label
          size := block.size
          color := if inHeader then none else color
          wrap := block.wrap }] := by
  have left := showsText_toNode { text := bullet, size := block.size, color, flex := some 0 }
  have right := showsText_toNode
    { text := label, size := block.size, color, wrap := block.wrap, flex := some 1 }
  rw [bulletLine, ofElement_of_row (showsBox_toNode _ _ _) (by decide)]
  simp only [List.map_cons, List.map_nil, ofRow?]
  rw [ofPair?_of_showsText left right glyph words]

theorem ofElement_text (block : TextBlock) (depth : Nat) :
    ofElement inHeader (depth + 1) ((Content.text block).element inHeader).toNode =
      [(Content.text block).readBack inHeader] := by
  obtain ⟨text, size, color, wrap⟩ := block
  cases parts : Bullet.split text with
  | none =>
      simp only [element, parts]
      rw [ofElement_of_showsText (showsText_toNode _)]
      cases size <;> cases inHeader <;> rfl
  | some pair =>
      obtain ⟨bullet, label⟩ := pair
      obtain ⟨listed, words, -⟩ := Bullet.split_eq_some parts
      simp only [element, parts]
      rw [ofElement_bulletLine (Bullet.isBullet_of_mem_glyphs listed) words,
        Bullet.join_of_split parts]
      cases inHeader <;> rfl

theorem ofElement_image (block : ImageBlock) (depth : Nat) :
    ofElement inHeader depth ((Content.image block).element inHeader).toNode =
      [(Content.image block).readBack inHeader] := by
  obtain ⟨url, ratio, action⟩ := block
  rw [element, ofElement_of_not_box depth
    (by simp [Element.toNode, Element.toJson, hasType, textField?])]
  cases action <;> cases inHeader <;>
    simp [Element.toNode, Element.toJson, ofLeaf, ofImage, textField?, keywordField?,
      Action.ofNode?_toNode, readBack, settled, uncolored]

theorem ofElement_button (block : ButtonBlock) (depth : Nat) :
    ofElement inHeader depth ((Content.button block).element inHeader).toNode =
      [(Content.button block).readBack inHeader] := by
  obtain ⟨label, style, color, action⟩ := block
  rw [element, ofElement_of_not_box depth
    (by simp [Element.toNode, Element.toJson, hasType, textField?])]
  cases color <;> cases inHeader <;>
    simp [Element.toNode, Element.toJson, ofLeaf, ofButton, textField?, keywordField?,
      Action.ofNode?_toNode, Action.label_toNode, Action.withLabel, Action.unlabelled, readBack,
      settled, uncolored]

theorem ofElement_separator (depth : Nat) :
    ofElement inHeader depth (Content.separator.element inHeader).toNode =
      [Content.separator.readBack inHeader] := by
  rw [element, ofElement_of_not_box depth
    (by simp [Element.toNode, Element.toJson, hasType, textField?])]
  cases inHeader <;>
    simp [Element.toNode, Element.toJson, ofLeaf, textField?, readBack, settled, uncolored]

theorem ofElement_element (content : Content) (depth : Nat) :
    ofElement inHeader (depth + 1) (content.element inHeader).toNode =
      [content.readBack inHeader] := by
  cases content with
  | title block => exact ofElement_title block (depth + 1)
  | text block => exact ofElement_text block depth
  | image block => exact ofElement_image block (depth + 1)
  | button block => exact ofElement_button block (depth + 1)
  | separator => exact ofElement_separator (depth + 1)

/-- The box around a bare bullet disappears again. -/
theorem ofElement_part (content : Content) (depth : Nat) :
    ofElement inHeader (depth + 2) (content.part inHeader).toNode =
      [content.readBack inHeader] := by
  rw [part]
  split
  · rw [ofElement_of_row (showsBox_toNode _ _ _) (by decide)]
    simp only [List.map_cons, List.map_nil, ofRow?, List.flatMap_cons, List.flatMap_nil,
      List.append_nil]
    exact ofElement_element content depth
  · exact ofElement_element content (depth + 1)

/-- Two nodes can only be a bulleted line when the first one is a text of its own. -/
theorem ofPair?_of_not_text {first : Json} (second : Json) (other : first.hasType "text" = false) :
    ofPair? inHeader first second = none := by
  rw [ofPair?, other]
  rfl

theorem ofPair?_of_not_bullet {first : Json} (second : Json)
    (other : Bullet.isBullet first.shownText = false) :
    ofPair? inHeader first second = none := by
  rw [ofPair?, other]
  simp

theorem hasType_text_box (layout : BoxLayout) (contents : List Element) (look : BoxLook) :
    (Element.box layout contents look).toNode.hasType "text" = false := by
  rw [hasType, (showsBox_toNode layout contents look).type]
  rfl

/-- A part of a section never looks like the bullet of what follows it. -/
theorem ofPair?_part (shownIn : Bool) (content : Content) (second : Json) :
    ofPair? inHeader (content.part shownIn).toNode second = none := by
  rw [part]
  split
  · exact ofPair?_of_not_text second (hasType_text_box _ _ _)
  · rename_i bare
    cases content with
    | title block =>
        apply ofPair?_of_not_bullet
        rw [element, shownText_of_showsText (showsText_toNode _)]
        simpa [isBareBullet] using bare
    | text block =>
        rw [element]
        split
        · exact ofPair?_of_not_text second (hasType_text_box _ _ _)
        · apply ofPair?_of_not_bullet
          rw [shownText_of_showsText (showsText_toNode _)]
          simpa [isBareBullet] using bare
    | image block =>
        apply ofPair?_of_not_text
        simp [element, Element.toNode, Element.toJson, hasType, textField?]
    | button block =>
        apply ofPair?_of_not_text
        simp [element, Element.toNode, Element.toJson, hasType, textField?]
    | separator =>
        apply ofPair?_of_not_text
        simp [element, Element.toNode, Element.toJson, hasType, textField?]

theorem ofColumn_of_unpaired (inner : Json → List Content) (nodes : List Json)
    (unpaired : ∀ first ∈ nodes, ∀ second, ofPair? inHeader first second = none) :
    ofColumn inHeader inner nodes = nodes.flatMap inner := by
  induction nodes with
  | nil => rfl
  | cons first rest ih =>
      have later := ih fun node member => unpaired node (List.mem_cons_of_mem _ member)
      cases rest with
      | nil => simp [ofColumn]
      | cons second rest =>
          simp only [ofColumn, unpaired first (by simp) second, later, List.flatMap_cons]

/-- A section is read back content by content. -/
theorem ofElement_section (contents : List Content) (look : BoxLook) (depth : Nat) :
    ofElement inHeader (depth + 3)
        (Element.box .vertical (contents.map (part inHeader)) look).toNode =
      contents.map (readBack inHeader) := by
  rw [ofElement_of_column (showsBox_toNode _ _ _),
    ofColumn_of_unpaired _ _ (by simp [ofPair?_part])]
  induction contents with
  | nil => rfl
  | cons content rest ih =>
      rw [List.map_cons, List.map_cons, List.flatMap_cons, ih, ofElement_part]
      rfl

theorem ofSection_of_sectionBox? {node : Json} {name : String} (look : BoxLook)
    (contents : List Content)
    (shown : node.field? name =
      (Draft.sectionBox? (name == "header") look contents).map fun box => box.toElement.toNode) :
    ofSection node name = contents.map (readBack (name == "header")) := by
  rw [ofSection, shown, Draft.sectionBox?]
  cases contents with
  | nil => rfl
  | cons content rest =>
      exact ofElement_section (content :: rest) look 29

end Content

namespace Draft

theorem sectionBackground?_of_sectionBox? {node : Json} {name : String} (inHeader : Bool)
    (look : BoxLook) (contents : List Content) (unstyled : node.field? "styles" = none)
    (shown : node.field? name =
      (sectionBox? inHeader look contents).map fun box => box.toElement.toNode) :
    sectionBackground? node name = if contents = [] then none else look.background := by
  rw [sectionBackground?, unstyled, shown, sectionBox?]
  cases contents with
  | nil => rfl
  | cons content rest =>
      simp [Box.toElement, background_toNode]

/-- A text with its letters A to Z in lower case. -/
def lowercase (text : String) : List Char :=
  text.toList.map Char.toLower

/-- What a draft is read back as after it has been written to a document. -/
def readBack (draft : Draft) : Draft :=
  let sections := Sections.route Content.kind draft.contents
  { settings :=
      { background :=
          if sections.body = [] ∨ lowercase draft.settings.background = lowercase defaultBackground
          then defaultBackground else draft.settings.background
        theme :=
          if sections.header = [] then (buttonColor? sections.footer).getD defaultTheme
          else draft.settings.theme
        size := draft.settings.size }
    contents :=
      sections.header.map (Content.readBack true) ++ sections.body.map (Content.readBack false) ++
        sections.footer.map (Content.readBack false) }

/-- The color that is found is that of the first button with a color. -/
theorem buttonColor?_eq_some_iff {contents : List Content} {color : String} :
    buttonColor? contents = some color ↔
      ∃ front block rest, contents = front ++ .button block :: rest ∧ block.color = some color ∧
        ∀ other, .button other ∈ front → other.color = none := by
  rw [buttonColor?, List.findSome?_eq_some_iff]
  constructor
  · rintro ⟨front, content, rest, whole, colored, before⟩
    cases content with
    | button block =>
        exact ⟨front, block, rest, whole, colored, fun other => before (.button other)⟩
    | title | text | image | separator => cases colored
  · rintro ⟨front, block, rest, whole, colored, before⟩
    refine ⟨front, .button block, rest, whole, colored, ?_⟩
    intro content member
    cases content with
    | button other => exact before other member
    | title | text | image | separator => rfl

theorem buttonColor?_append (first second : List Content) :
    buttonColor? (first ++ second) = (buttonColor? first).or (buttonColor? second) :=
  List.findSome?_append

theorem buttonColor?_eq_none {contents : List Content}
    (other : ∀ content ∈ contents, content.kind ≠ .button) : buttonColor? contents = none := by
  rw [Option.eq_none_iff_forall_ne_some]
  intro color found
  obtain ⟨front, block, rest, rfl, _, _⟩ := buttonColor?_eq_some_iff.mp found
  exact other (.button block) (List.mem_append_right front List.mem_cons_self) rfl

/-- Reading back changes no color of a button, and makes no button of anything else. -/
theorem buttonColor?_map_readBack (inHeader : Bool) (contents : List Content) :
    buttonColor? (contents.map (Content.readBack inHeader)) = buttonColor? contents := by
  rw [buttonColor?, List.findSome?_map]
  congr 1
  funext content
  cases content with
  | title block =>
      simp only [Function.comp_apply, Content.readBack, Content.settled]
      cases inHeader <;> cases block.size.isLarge <;> rfl
  | text | image | button | separator => cases inHeader <;> rfl

theorem bodyBackground_getD (settings : Settings) :
    (bodyBackground settings).getD defaultBackground =
      if lowercase settings.background = lowercase defaultBackground then defaultBackground
      else settings.background := by
  rw [bodyBackground]
  by_cases white : lowercase settings.background = lowercase defaultBackground
  · rw [if_pos white]
    exact congrArg (fun fill => Option.getD fill defaultBackground) (if_pos white)
  · rw [if_neg white]
    exact congrArg (fun fill => Option.getD fill defaultBackground) (if_neg white)

/-- Only the footer has buttons, so the first color of a button is found there. -/
theorem buttonColor?_readBack (draft : Draft) :
    buttonColor? draft.readBack.contents =
      buttonColor? (Sections.route Content.kind draft.contents).footer := by
  rw [readBack, buttonColor?_append, buttonColor?_append]
  simp only [buttonColor?_map_readBack]
  rw [buttonColor?_eq_none fun _ => Sections.kind_ne_button_of_mem_header,
    buttonColor?_eq_none fun _ => Sections.kind_ne_button_of_mem_body]
  rfl

theorem settingsOfBubble_of_showsBubble {node : Json} {draft : Draft}
    (shown : ShowsBubble node draft.toBubble) :
    settingsOfBubble node draft.readBack.contents = draft.readBack.settings := by
  have fill := sectionBackground?_of_sectionBox? false _ _ shown.styles shown.body
  have theme := sectionBackground?_of_sectionBox? true _ _ shown.styles shown.header
  rw [settingsOfBubble, fill, theme, buttonColor?_readBack, shown.size]
  simp only [readBack, Settings.mk.injEq]
  refine ⟨?_, ?_, rfl⟩
  · by_cases empty : (Sections.route Content.kind draft.contents).body = []
    · rw [if_pos empty, if_pos (Or.inl empty)]
      rfl
    · simp only [empty, ↓reduceIte, false_or, bodyBackground_getD]
  · by_cases empty : (Sections.route Content.kind draft.contents).header = []
    · rw [if_pos empty, if_pos empty]
      rfl
    · rw [if_neg empty, if_neg empty]
      rfl

/-- A bubble is read back as its draft, section by section. -/
theorem ofBubble_of_showsBubble {node : Json} {draft : Draft}
    (shown : ShowsBubble node draft.toBubble) : ofBubble node = draft.readBack := by
  have header := Content.ofSection_of_sectionBox? _ _ shown.header
  have hero : Content.ofSection node "hero" = [] := by
    rw [Content.ofSection, shown.hero]
    rfl
  have body := Content.ofSection_of_sectionBox? _ _ shown.body
  have footer := Content.ofSection_of_sectionBox? _ _ shown.footer
  have walked : sectionNames.flatMap (Content.ofSection node) = draft.readBack.contents := by
    simp [sectionNames, header, hero, body, footer, readBack]
  rw [ofBubble, walked, settingsOfBubble_of_showsBubble shown]

theorem ofNode_bubble (draft : Draft) :
    ofNode (Document.bubble draft.toBubble).toNode = [draft.readBack] := by
  have shown : ShowsBubble (Document.bubble draft.toBubble).toNode draft.toBubble :=
    showsBubble_toNode _
  have whole : unwrap (Document.bubble draft.toBubble).toNode =
      (Document.bubble draft.toBubble).toNode := by
    simp [unwrap, hasType, shown.type]
  have object : (Document.bubble draft.toBubble).toNode.isObject = true :=
    isObject_canonical_obj _
  rw [ofNode, whole, object, ofBubble_of_showsBubble shown]
  simp [hasType, shown.type]

theorem contents_carousel (pages : List Bubble) :
    (Document.carousel pages).toNode.contents = pages.map fun page => page.toJson.canonical := by
  simp [Document.toNode, Document.toJson, Json.contents, Json.items]

theorem ofNode_carousel (drafts : List Draft) :
    ofNode (Document.carousel (drafts.map toBubble)).toNode = drafts.map readBack := by
  have type : (Document.carousel (drafts.map toBubble)).toNode.textField? "type" =
      some "carousel" := by
    simp [Document.toNode, Document.toJson, textField?]
  have whole : unwrap (Document.carousel (drafts.map toBubble)).toNode =
      (Document.carousel (drafts.map toBubble)).toNode := by
    simp [unwrap, hasType, type]
  have objects : (drafts.map fun draft => draft.toBubble.toJson.canonical).filter isObject =
      drafts.map fun draft => draft.toBubble.toJson.canonical := by
    apply List.filter_eq_self.mpr
    intro node member
    obtain ⟨draft, -, rfl⟩ := List.mem_map.mp member
    exact isObject_canonical_obj _
  rw [ofNode, whole, contents_carousel, List.map_map]
  simp only [hasType, type, beq_self_eq_true, ↓reduceIte, Function.comp_def, objects, List.map_map]
  exact List.map_congr_left fun draft _ => ofBubble_of_showsBubble (showsBubble_toNode _)

/-- Without any draft the document still has one bubble, an empty one. -/
theorem ofNode_ofDrafts (drafts : List Draft) :
    ofNode (Document.ofDrafts drafts).toNode =
      if drafts = [] then [empty none] else drafts.map readBack := by
  rcases drafts with _ | ⟨first, _ | ⟨second, rest⟩⟩
  · exact ofNode_bubble (empty none)
  · exact ofNode_bubble first
  · exact ofNode_carousel (first :: second :: rest)

end Draft

namespace Panel

variable {σ : Type} [IdSource σ]

theorem drafts_ofNode (node : Json) (source : σ) :
    (ofNode node source).1.map draft = Draft.ofNode node :=
  Draft.drafts_numberAll _ source

/-- Flattening an assembled document gives back every panel, in order, as `Draft.readBack` says;
where there was no panel it gives one with usual settings and no blocks. -/
theorem drafts_ofNode_ofPanels (panels : List Panel) (source : σ) :
    (ofNode (Document.ofPanels panels).toNode source).1.map draft =
      if panels = [] then [{ settings := {}, contents := [] }]
      else panels.map fun panel => panel.draft.readBack := by
  rw [drafts_ofNode, Document.ofPanels, Draft.ofNode_ofDrafts, List.map_map]
  simp only [List.map_eq_nil_iff]
  rfl

end Panel

end RichMessage
