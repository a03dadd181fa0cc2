import Mathlib.Data.List.Forall2
import RichMessage.Proofs.Document.RoundTrip

set_option autoImplicit false

namespace RichMessage

namespace Element

mutual
/-- The element and all that is inside of it. -/
def all : Element → List Element
  | .box layout contents look => .box layout contents look :: listAll contents
  | .text element => [.text element]
  | .image url ratio action => [.image url ratio action]
  | .button action style color => [.button action style color]
  | .separator => [.separator]

def listAll : List Element → List Element
  | [] => []
  | e :: es => e.all ++ listAll es
end

mutual
/-- How many boxes are nested at the deepest place. -/
def nesting : Element → Nat
  | .box _ contents _ => listNesting contents + 1
  | .text _ => 0
  | .image _ _ _ => 0
  | .button _ _ _ => 0
  | .separator => 0

def listNesting : List Element → Nat
  | [] => 0
  | e :: es => max e.nesting (listNesting es)
end

def IsEmptyBox (element : Element) : Prop :=
  ∃ layout look, element = .box layout [] look

def IsButton (element : Element) : Prop :=
  ∃ action style color, element = .button action style color

/-- Two elements that show a bullet and a label to go with it. -/
def IsLine (first second : Element) : Prop :=
  ∃ bullet label, first = .text bullet ∧ second = .text label ∧
    Bullet.isBullet bullet.text = true ∧ Bullet.isLabel label.text = true

theorem mem_listAll {element : Element} {contents : List Element} :
    element ∈ listAll contents ↔ ∃ e ∈ contents, element ∈ e.all := by
  induction contents with
  | nil => simp [listAll]
  | cons e es ih => simp [listAll, ih]

theorem listNesting_le_iff {contents : List Element} {n : Nat} :
    listNesting contents ≤ n ↔ ∀ e ∈ contents, e.nesting ≤ n := by
  induction contents with
  | nil => simp [listNesting]
  | cons e es ih => rw [listNesting, Nat.max_le, ih, List.forall_mem_cons]

end Element

/-- The sections of a bubble, from top to bottom. -/
def Bubble.sections (bubble : Bubble) : List Box :=
  bubble.header.toList ++ bubble.body.toList ++ bubble.footer.toList

/-- The rules that a bubble keeps. -/
structure Bubble.WellFormed (bubble : Bubble) : Prop where
  filled : ∀ box ∈ bubble.sections, ∀ element ∈ box.toElement.all, ¬ element.IsEmptyBox
  shortHeader : ∀ box ∈ bubble.header, box.contents.length ≤ 2
  inkedHeader : ∀ box ∈ bubble.header, ∀ text, .text text ∈ box.toElement.all →
    text.color = some "#FFFFFF"
  buttonFooter : ∀ box ∈ bubble.footer, ∀ element ∈ box.contents, element.IsButton
  noOtherButton : ∀ box, box ∈ bubble.header ∨ box ∈ bubble.body →
    ∀ element ∈ box.toElement.all, ¬ element.IsButton
  shallow : ∀ box ∈ bubble.sections, box.toElement.nesting ≤ 2
  apart : ∀ box ∈ bubble.sections, ∀ i first second, box.contents[i]? = some first →
    box.contents[i + 1]? = some second → ¬ first.IsLine second
  unmerged : ∀ box ∈ bubble.sections, ∀ inHeader inner,
    Content.ofColumn inHeader inner (box.contents.map Element.toNode) =
      (box.contents.map Element.toNode).flatMap inner

namespace Content

open Element

variable {inHeader : Bool}

/-- An element is a text, a row of two texts, or neither and not a box. -/
theorem nesting_element_le (content : Content) : (content.element inHeader).nesting ≤ 1 := by
  cases content with
  | text block =>
      rw [element]
      split
      · exact Nat.le_refl 1
      · exact Nat.zero_le 1
  | title block | image block | button block | separator => exact Nat.zero_le 1

theorem nesting_element_of_isBareBullet {content : Content} (bare : content.isBareBullet = true) :
    (content.element inHeader).nesting = 0 := by
  cases content with
  | text block =>
      have whole : Bullet.split block.text = none := by
        cases parts : Bullet.split block.text with
        | none => rfl
        | some pair =>
            have more : Bullet.isBullet block.text = false := Bullet.isBullet_of_split parts
            rw [isBareBullet, more] at bare
            cases bare
      simp only [element, whole]
      rfl
  | title block | image block | button block | separator => rfl

/-- Neither a line nor a bare bullet needs more than one box. -/
theorem nesting_part_le (content : Content) : (content.part inHeader).nesting ≤ 1 := by
  rw [part]
  split
  · rename_i bare
    have inside : (content.element inHeader).nesting = 0 := nesting_element_of_isBareBullet bare
    simp [nesting, listNesting, inside]
  · exact nesting_element_le content

/-- What there can be inside of the part of a content. -/
inductive Inside (inHeader : Bool) (content : Content) : Element → Prop where
  | text (run : TextElement) (inked : inHeader = true → run.color = some headerInk) :
    Inside inHeader content (.text run)
  | box (layout : BoxLayout) (first : Element) (rest : List Element) (look : BoxLook) :
    Inside inHeader content (.box layout (first :: rest) look)
  | image (url : String) (ratio : AspectRatio) (action : Option Action) :
    Inside inHeader content (.image url ratio action)
  | button (isButton : content.kind = .button) (action : Action) (style : ButtonStyle)
    (color : Option String) : Inside inHeader content (.button action style color)
  | separator : Inside inHeader content .separator

theorem inside_of_mem_bulletLine {content : Content} {bullet label : String} {block : TextBlock}
    {color : Option String} {e : Element} (inked : inHeader = true → color = some headerInk)
    (member : e ∈ (bulletLine bullet label block color).all) : Inside inHeader content e := by
  simp only [bulletLine, all, listAll, List.append_nil, List.mem_cons, List.mem_append,
    List.not_mem_nil, or_false] at member
  rcases member with rfl | rfl | rfl
  · exact .box _ _ _ _
  · exact .text _ inked
  · exact .text _ inked

theorem inside_of_mem_element {content : Content} {e : Element}
    (member : e ∈ (content.element inHeader).all) : Inside inHeader content e := by
  have inked (color : Option String) (header : inHeader = true) :
      (if inHeader then some headerInk else color) = some headerInk := if_pos header
  cases content with
  | title block =>
      rw [List.mem_singleton.mp member]
      exact .text _ (inked block.color)
  | text block =>
      simp only [element] at member
      split at member
      · exact inside_of_mem_bulletLine (inked block.color) member
      · rw [List.mem_singleton.mp member]
        exact .text _ (inked block.color)
  | image block =>
      rw [List.mem_singleton.mp member]
      exact .image _ _ _
  | button block =>
      rw [List.mem_singleton.mp member]
      exact .button rfl _ _ _
  | separator =>
      rw [List.mem_singleton.mp member]
      exact .separator

theorem inside_of_mem_part {content : Content} {e : Element}
    (member : e ∈ (content.part inHeader).all) : Inside inHeader content e := by
  rw [part] at member
  split at member
  · rw [all, listAll, listAll, List.append_nil] at member
    rcases List.mem_cons.mp member with rfl | within
    · exact .box _ _ _ _
    · exact inside_of_mem_element within
  · exact inside_of_mem_element member

theorem Inside.not_isEmptyBox {content : Content} {e : Element}
    (inside : Inside inHeader content e) : ¬ e.IsEmptyBox := by
  rintro ⟨layout, look, rfl⟩
  cases inside

theorem Inside.color {content : Content} {run : TextElement}
    (inside : Inside true content (.text run)) : run.color = some headerInk := by
  cases inside with
  | text run inked => exact inked rfl

theorem Inside.not_isButton {content : Content} {e : Element}
    (inside : Inside inHeader content e) (other : content.kind ≠ .button) : ¬ e.IsButton := by
  rintro ⟨action, style, color, rfl⟩
  cases inside with
  | button isButton => exact other isButton

theorem isButton_part {content : Content} (button : content.kind = .button) :
    (content.part inHeader).IsButton := by
  cases content with
  | button block => exact ⟨_, _, _, rfl⟩
  | title block | text block | image block | separator => cases button

/-- A part is never the bullet of a line. -/
theorem not_isLine_part (content : Content) (second : Element) :
    ¬ (content.part inHeader).IsLine second := by
  rintro ⟨bullet, label, first, rfl, glyph, words⟩
  have none : ofPair? inHeader (content.part inHeader).toNode (Element.text label).toNode = none :=
    ofPair?_part inHeader content (Element.text label).toNode
  rw [first, ofPair?_of_showsText (showsText_toNode bullet) (showsText_toNode label) glyph words]
    at none
  cases none

end Content

namespace Draft

open Element

variable {inHeader : Bool} {look : BoxLook} {contents : List Content} {box : Box}

theorem sectionBox?_eq_some_iff :
    sectionBox? inHeader look contents = some box ↔
      contents ≠ [] ∧ box = ⟨.vertical, contents.map (Content.part inHeader), look⟩ := by
  rw [sectionBox?]
  cases contents with
  | nil => simp
  | cons content rest => simp [eq_comm]

/-- Inside of a section there are the insides of its parts, and the section itself is not empty. -/
theorem inside_of_mem_section (shown : sectionBox? inHeader look contents = some box)
    {e : Element} (member : e ∈ box.toElement.all) :
    ∃ content ∈ contents, Content.Inside inHeader content e := by
  obtain ⟨filled, rfl⟩ := sectionBox?_eq_some_iff.mp shown
  obtain ⟨first, rest, rfl⟩ := List.exists_cons_of_ne_nil filled
  rw [Box.toElement, all] at member
  rcases List.mem_cons.mp member with rfl | within
  · exact ⟨first, List.mem_cons_self, .box _ _ _ _⟩
  · obtain ⟨part, listed, inside⟩ := mem_listAll.mp within
    obtain ⟨content, given, rfl⟩ := List.mem_map.mp listed
    exact ⟨content, given, Content.inside_of_mem_part inside⟩

theorem nesting_section_le (shown : sectionBox? inHeader look contents = some box) :
    box.toElement.nesting ≤ 2 := by
  obtain ⟨_, rfl⟩ := sectionBox?_eq_some_iff.mp shown
  rw [Box.toElement, nesting]
  refine Nat.succ_le_succ (listNesting_le_iff.mpr fun part listed => ?_)
  obtain ⟨content, _, rfl⟩ := List.mem_map.mp listed
  exact Content.nesting_part_le content

theorem not_isLine_section (shown : sectionBox? inHeader look contents = some box) {i : Nat}
    {first second : Element} (here : box.contents[i]? = some first) : ¬ first.IsLine second := by
  obtain ⟨_, rfl⟩ := sectionBox?_eq_some_iff.mp shown
  obtain ⟨content, _, rfl⟩ := List.mem_map.mp (List.mem_of_getElem? here)
  exact Content.not_isLine_part content second

theorem ofColumn_section (shown : sectionBox? inHeader look contents = some box) (readIn : Bool)
    (inner : Json → List Content) :
    Content.ofColumn readIn inner (box.contents.map toNode) =
      (box.contents.map toNode).flatMap inner := by
  obtain ⟨_, rfl⟩ := sectionBox?_eq_some_iff.mp shown
  refine Content.ofColumn_of_unpaired inner _ fun first listed second => ?_
  obtain ⟨part, member, rfl⟩ := List.mem_map.mp listed
  obtain ⟨content, _, rfl⟩ := List.mem_map.mp member
  exact Content.ofPair?_part inHeader content second

/-- Every section of a bubble is a section of some contents. -/
theorem exists_of_mem_sections {draft : Draft} (member : box ∈ draft.toBubble.sections) :
    ∃ inHeader look contents, sectionBox? inHeader look contents = some box := by
  simp only [Bubble.sections, List.mem_append, Option.mem_toList] at member
  rcases member with (header | body) | footer
  · exact ⟨_, _, _, header⟩
  · exact ⟨_, _, _, body⟩
  · exact ⟨_, _, _, footer⟩

theorem wellFormed_toBubble (draft : Draft) : draft.toBubble.WellFormed where
  filled box member element inside := by
    obtain ⟨inHeader, look, contents, shown⟩ := exists_of_mem_sections member
    obtain ⟨content, _, within⟩ := inside_of_mem_section shown inside
    exact within.not_isEmptyBox
  shortHeader box shown := by
    obtain ⟨_, rfl⟩ := sectionBox?_eq_some_iff.mp shown
    rw [List.length_map, Sections.length_header]
    exact Sections.headerLength_le_capacity _
  inkedHeader box shown text inside := by
    obtain ⟨content, _, within⟩ := inside_of_mem_section shown inside
    exact within.color
  buttonFooter box shown element listed := by
    obtain ⟨_, rfl⟩ := sectionBox?_eq_some_iff.mp shown
    obtain ⟨content, member, rfl⟩ := List.mem_map.mp listed
    exact Content.isButton_part (Sections.kind_eq_button_of_mem_footer member)
  noOtherButton box shown element inside := by
    rcases shown with header | body
    · obtain ⟨content, member, within⟩ := inside_of_mem_section header inside
      exact within.not_isButton (Sections.kind_ne_button_of_mem_header member)
    · obtain ⟨content, member, within⟩ := inside_of_mem_section body inside
      exact within.not_isButton (Sections.kind_ne_button_of_mem_body member)
  shallow box member := by
    obtain ⟨inHeader, look, contents, shown⟩ := exists_of_mem_sections member
    exact nesting_section_le shown
  apart box member i first second here _ := by
    obtain ⟨inHeader, look, contents, shown⟩ := exists_of_mem_sections member
    exact not_isLine_section shown here
  unmerged box member inHeader inner := by
    obtain ⟨_, look, contents, shown⟩ := exists_of_mem_sections member
    exact ofColumn_section shown inHeader inner

end Draft

namespace Document

theorem exists_draft_of_mem_bubbles {drafts : List Draft} {page : Bubble}
    (member : page ∈ (ofDrafts drafts).bubbles) : ∃ draft : Draft, draft.toBubble = page := by
  rcases drafts with _ | ⟨first, _ | ⟨second, rest⟩⟩
  · exact ⟨_, (List.mem_singleton.mp member).symm⟩
  · exact ⟨_, (List.mem_singleton.mp member).symm⟩
  · obtain ⟨draft, _, same⟩ := List.mem_map.mp member
    exact ⟨draft, same⟩

/-- A document has one bubble for each panel, on its own for one panel at most, and every bubble
keeps the rules. -/
theorem ofPanels_wellFormed (panels : List Panel) :
    (panels.length ≤ 1 → ∃ page, ofPanels panels = .bubble page) ∧
    (1 < panels.length → ∃ pages, ofPanels panels = .carousel pages ∧
      List.Forall₂ (fun panel page => ofPanels [panel] = .bubble page) panels pages) ∧
    ∀ page ∈ (ofPanels panels).bubbles, page.WellFormed := by
  refine ⟨?_, ?_, ?_⟩
  · intro few
    rcases panels with _ | ⟨first, _ | ⟨second, rest⟩⟩
    · exact ⟨_, rfl⟩
    · exact ⟨_, rfl⟩
    · exact absurd few (by simp)
  · intro several
    rcases panels with _ | ⟨first, _ | ⟨second, rest⟩⟩
    · exact absurd several (by simp)
    · exact absurd several (by simp)
    · refine ⟨(first :: second :: rest).map fun panel => panel.draft.toBubble, ?_, ?_⟩
      · simp [ofPanels, ofDrafts]
      · exact List.forall₂_map_right_iff.mpr (List.forall₂_same.mpr fun _ _ => rfl)
  · intro page member
    obtain ⟨draft, rfl⟩ := exists_draft_of_mem_bubbles member
    exact draft.wellFormed_toBubble

theorem glyph_title_in_carousel_wellFormed :
    let panels : List Panel :=
      [⟨"p-1", {}, [⟨"p-2", .title { text := "●" }⟩, ⟨"p-3", .text { text := "Menu" }⟩]⟩,
        ⟨"p-4", {}, []⟩]
    1 < panels.length ∧ ∃ first second, ofPanels panels = .carousel [first, second] ∧
      first.WellFormed ∧ second.WellFormed := by
  intro panels
  have several : 1 < panels.length := by decide
  obtain ⟨_, carousel, each⟩ := ofPanels_wellFormed panels
  obtain ⟨pages, whole, pairs⟩ := carousel several
  have count : pages.length = 2 := pairs.length_eq.symm
  obtain ⟨first, second, rfl⟩ := List.length_eq_two.mp count
  have listed : (ofPanels panels).bubbles = [first, second] := by
    rw [whole]
    rfl
  rw [listed] at each
  exact ⟨several, first, second, whole, each first (by simp), each second (by simp)⟩

end Document

end RichMessage
