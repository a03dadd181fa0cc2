import RichMessage.Proofs.Document.Settled

set_option autoImplicit false

/- A pass assembles panels into a document and flattens it again. The first pass settles the
contents and puts the buttons last, which can let the header take more of what follows. The second
pass then finds a longer header than the first. After that nothing moves any more, so the document
is the same from the first pass on and the panels are the same from the second. -/
namespace RichMessage

namespace Draft

open Sections

/-- The header stays as it is when the buttons are left out. -/
def HeaderSteady (draft : Draft) : Prop :=
  (route Content.kind (others Content.kind draft.contents)).header =
    (route Content.kind draft.contents).header

theorem headerSteady_iff (draft : Draft) :
    draft.HeaderSteady ↔
      headerLength ((others Content.kind draft.contents).map Content.kind) =
        headerLength (draft.contents.map Content.kind) := by
  constructor
  · intro steady
    rw [← length_header, ← length_header, steady]
  · intro same
    rw [HeaderSteady, route_eq Content.kind (others _ _), same, ← length_header]
    simp only [← header_append_body, List.take_left]

/-- Header and body of a draft with open colors in the header, which are the front of what one pass
gives. -/
def front (draft : Draft) : List Content :=
  (route Content.kind draft.contents).header.map Content.uncolored ++
    (route Content.kind draft.contents).body

/-- A pass over settled contents moves the buttons to the end and opens the header's colors. -/
theorem contents_readBack (draft : Draft) (settled : draft.Settled) :
    draft.readBack.contents = draft.front ++ (route Content.kind draft.contents).footer := by
  have header : (route Content.kind draft.contents).header.map (Content.readBack true) =
      (route Content.kind draft.contents).header.map Content.uncolored :=
    List.map_congr_left fun content member => by
      simp [Content.readBack, settled content (mem_of_mem_header member)]
  have body : (route Content.kind draft.contents).body.map (Content.readBack false) =
      (route Content.kind draft.contents).body :=
    (List.map_congr_left fun content member =>
      settled content (mem_of_mem_body member)).trans (List.map_id _)
  have footer : (route Content.kind draft.contents).footer.map (Content.readBack false) =
      (route Content.kind draft.contents).footer :=
    (List.map_congr_left fun content member =>
      settled content (mem_of_mem_footer member)).trans (List.map_id _)
  rw [readBack, header, body, footer, front]

theorem kinds_front (draft : Draft) :
    draft.front.map Content.kind = (others Content.kind draft.contents).map Content.kind := by
  simp [front, ← header_append_body]

theorem kind_ne_button_of_mem_front {draft : Draft} {content : Content}
    (member : content ∈ draft.front) : content.kind ≠ .button := by
  rcases List.mem_append.mp member with inHeader | inBody
  · obtain ⟨original, present, rfl⟩ := List.mem_map.mp inHeader
    rw [Content.kind_uncolored]
    exact kind_ne_button_of_mem_header present
  · exact kind_ne_button_of_mem_body inBody

theorem route_readBack (draft : Draft) (settled : draft.Settled) :
    let taken := headerLength ((others Content.kind draft.contents).map Content.kind)
    route Content.kind draft.readBack.contents =
      ⟨draft.front.take taken, draft.front.drop taken,
        (route Content.kind draft.contents).footer⟩ := by
  rw [contents_readBack draft settled, ← kinds_front]
  exact route_append_buttons (fun _ => kind_ne_button_of_mem_front)
    (fun _ => kind_eq_button_of_mem_footer)

theorem route_readBack_of_steady (draft : Draft) (settled : draft.Settled)
    (steady : draft.HeaderSteady) :
    route Content.kind draft.readBack.contents =
      ⟨(route Content.kind draft.contents).header.map Content.uncolored,
        (route Content.kind draft.contents).body, (route Content.kind draft.contents).footer⟩ := by
  have length : ((route Content.kind draft.contents).header.map Content.uncolored).length =
      headerLength ((others Content.kind draft.contents).map Content.kind) := by
    rw [List.length_map, length_header, draft.headerSteady_iff.mp steady]
  rw [route_readBack draft settled, ← length, front]
  simp only [List.take_left, List.drop_left]

theorem sectionBox?_map_uncolored (look : BoxLook) (contents : List Content) :
    sectionBox? true look (contents.map Content.uncolored) = sectionBox? true look contents := by
  simp only [sectionBox?, List.isEmpty_map, List.map_map, Function.comp_def,
    Content.part_uncolored]

theorem sectionBox?_nil (inHeader : Bool) (look : BoxLook) : sectionBox? inHeader look [] = none :=
  rfl

/-- White is left out of a body, whatever its letters, so that reading it back changes nothing. -/
theorem bodyBackground_readBack (draft : Draft)
    (filled : (route Content.kind draft.contents).body ≠ []) :
    bodyBackground draft.readBack.settings = bodyBackground draft.settings := by
  by_cases white : lowercase draft.settings.background = lowercase defaultBackground
  · have settings : draft.readBack.settings.background = defaultBackground :=
      if_pos (Or.inr white)
    have before : bodyBackground draft.settings = none := if_pos white
    rw [before, bodyBackground, settings]
    exact if_pos rfl
  · have settings : draft.readBack.settings.background = draft.settings.background :=
      if_neg (by simp [filled, white])
    rw [bodyBackground, bodyBackground, settings]

/-- Where the header stays as it is, the bubble that is assembled next is the same bubble. -/
theorem toBubble_readBack (draft : Draft) (settled : draft.Settled) (steady : draft.HeaderSteady) :
    draft.readBack.toBubble = draft.toBubble := by
  have routed := route_readBack_of_steady draft settled steady
  simp only [toBubble, routed, sectionBox?_map_uncolored, Bubble.mk.injEq]
  refine ⟨rfl, ?_, ?_, trivial⟩
  · by_cases empty : (route Content.kind draft.contents).header = []
    · rw [empty, sectionBox?_nil, sectionBox?_nil]
    · have theme : draft.readBack.settings.theme = draft.settings.theme := if_neg empty
      rw [theme]
  · by_cases empty : (route Content.kind draft.contents).body = []
    · rw [empty, sectionBox?_nil, sectionBox?_nil]
    · rw [bodyBackground_readBack draft empty]

def headerCount (bubble : Bubble) : Nat :=
  (bubble.header.map fun box => box.contents.length).getD 0

theorem headerCount_toBubble (draft : Draft) :
    headerCount draft.toBubble = headerLength (draft.contents.map Content.kind) := by
  rw [← length_header, headerCount, toBubble, sectionBox?]
  cases (route Content.kind draft.contents).header <;> simp

/-- A pass leaves the bubble as it is only where the header stays as it is. -/
theorem toBubble_readBack_eq_iff (draft : Draft) (settled : draft.Settled) :
    draft.readBack.toBubble = draft.toBubble ↔ draft.HeaderSteady := by
  constructor
  · intro same
    have footer : ∀ kind ∈ (route Content.kind draft.contents).footer.map Content.kind,
        kind = .button := by
      intro kind member
      obtain ⟨content, present, rfl⟩ := List.mem_map.mp member
      exact kind_eq_button_of_mem_footer present
    have counts : headerCount draft.readBack.toBubble = headerCount draft.toBubble := by rw [same]
    rw [headerCount_toBubble, headerCount_toBubble, contents_readBack draft settled,
      List.map_append, kinds_front, headerLength_append_buttons _ _ footer] at counts
    exact draft.headerSteady_iff.mpr counts
  · exact toBubble_readBack draft settled

theorem headerSteady_of_append_buttons {draft : Draft} {front back : List Content}
    (parts : draft.contents = front ++ back) (first : ∀ content ∈ front, content.kind ≠ .button)
    (last : ∀ content ∈ back, content.kind = .button) : draft.HeaderSteady := by
  rw [headerSteady_iff, parts, others_append_buttons first last, List.map_append,
    headerLength_append_buttons _ _ (by simpa using last)]

/-- After a pass the buttons stand last, so the header stays as it is. -/
theorem headerSteady_readBack (draft : Draft) : draft.readBack.HeaderSteady := by
  refine headerSteady_of_append_buttons rfl ?_ ?_
  · intro content member
    rcases List.mem_append.mp member with inHeader | inBody
    · obtain ⟨original, present, rfl⟩ := List.mem_map.mp inHeader
      rw [ne_eq, Content.kind_readBack_eq_button_iff]
      exact kind_ne_button_of_mem_header present
    · obtain ⟨original, present, rfl⟩ := List.mem_map.mp inBody
      rw [ne_eq, Content.kind_readBack_eq_button_iff]
      exact kind_ne_button_of_mem_body present
  · intro content member
    obtain ⟨original, present, rfl⟩ := List.mem_map.mp member
    rw [Content.kind_readBack_eq_button_iff]
    exact kind_eq_button_of_mem_footer present

theorem ofDrafts_map_eq_iff (change : Draft → Draft) (drafts : List Draft) :
    Document.ofDrafts (drafts.map change) = Document.ofDrafts drafts ↔
      ∀ draft ∈ drafts, (change draft).toBubble = draft.toBubble := by
  rcases drafts with _ | ⟨first, _ | ⟨second, rest⟩⟩
  · simp
  · simp [Document.ofDrafts]
  · rw [List.map_cons, List.map_cons]
    simp only [Document.ofDrafts, Document.carousel.injEq, ← List.map_cons, List.map_map]
    exact List.map_inj_left

/-- One pass over settled drafts gives the same document exactly where every header stays as it
is. -/
theorem ofDrafts_map_readBack_eq_iff (drafts : List Draft)
    (settled : ∀ draft ∈ drafts, draft.Settled) :
    Document.ofDrafts (drafts.map readBack) = Document.ofDrafts drafts ↔
      ∀ draft ∈ drafts, draft.HeaderSteady := by
  rw [ofDrafts_map_eq_iff]
  exact forall₂_congr fun draft member => toBubble_readBack_eq_iff draft (settled draft member)

/-- The drafts that one pass gives: they are assembled into a document, which is flattened again. -/
def pass (drafts : List Draft) : List Draft :=
  ofNode (Document.ofDrafts drafts).toNode

theorem pass_nil : pass [] = [empty none] := by
  rw [pass, ofNode_ofDrafts]
  rfl

theorem pass_of_ne_nil {drafts : List Draft} (some : drafts ≠ []) :
    pass drafts = drafts.map readBack := by
  rw [pass, ofNode_ofDrafts, if_neg some]

/-- What one pass gives is settled and steady: in every draft the buttons stand last. -/
theorem settled_of_mem_pass {drafts : List Draft} {draft : Draft} (member : draft ∈ pass drafts) :
    draft.Settled :=
  settled_of_mem_ofNode member

theorem headerSteady_of_mem_pass {drafts : List Draft} {draft : Draft}
    (member : draft ∈ pass drafts) : draft.HeaderSteady := by
  rw [pass, ofNode_ofDrafts] at member
  split at member
  · rw [List.mem_singleton.mp member]
    rfl
  · obtain ⟨original, -, rfl⟩ := List.mem_map.mp member
    exact headerSteady_readBack original

theorem ofDrafts_pass_eq_iff (drafts : List Draft)
    (settled : ∀ draft ∈ drafts, draft.Settled) :
    Document.ofDrafts (pass drafts) = Document.ofDrafts drafts ↔
      ∀ draft ∈ drafts, draft.HeaderSteady := by
  by_cases none : drafts = []
  · subst none
    rw [pass_nil]
    exact ⟨fun _ _ member => (List.not_mem_nil member).elim, fun _ => rfl⟩
  · rw [pass_of_ne_nil none]
    exact ofDrafts_map_readBack_eq_iff drafts settled

/-- From the first pass on the document stays the same. -/
theorem ofDrafts_pass_pass (drafts : List Draft) :
    Document.ofDrafts (pass (pass drafts)) = Document.ofDrafts (pass drafts) :=
  (ofDrafts_pass_eq_iff (pass drafts) fun _ => settled_of_mem_pass).mpr
    fun _ => headerSteady_of_mem_pass

end Draft

namespace Panel

variable {σ : Type} [IdSource σ]

theorem drafts_pass (panels : List Panel) (source : σ) :
    (ofNode (Document.ofPanels panels).toNode source).1.map draft =
      Draft.pass (panels.map draft) :=
  drafts_ofNode _ source

/-- The panels after so many passes; each pass may draw its identifiers from another source. -/
def passes (panels : List Panel) (sources : Nat → σ) : Nat → List Panel
  | 0 => panels
  | n + 1 => (ofNode (Document.ofPanels (passes panels sources n)).toNode (sources n)).1

theorem drafts_passes_succ (panels : List Panel) (sources : Nat → σ) (n : Nat) :
    (passes panels sources (n + 1)).map draft =
      Draft.pass ((passes panels sources n).map draft) :=
  drafts_pass _ _

theorem ofPanels_passes_succ_succ (panels : List Panel) (sources : Nat → σ) (n : Nat) :
    Document.ofPanels (passes panels sources (n + 2)) =
      Document.ofPanels (passes panels sources (n + 1)) := by
  simp only [Document.ofPanels, drafts_passes_succ]
  exact Draft.ofDrafts_pass_pass _

theorem ofPanels_passes (panels : List Panel) (sources : Nat → σ) (n : Nat) :
    Document.ofPanels (passes panels sources (n + 1)) =
      Document.ofPanels (passes panels sources 1) := by
  induction n with
  | zero => rfl
  | succ n ih => rw [ofPanels_passes_succ_succ, ih]

/-- Passes over any panels come to rest: the document is that of the first pass from then on, and
the settings and contents are those of the second pass from then on. -/
theorem passes_rest (panels : List Panel) (sources : Nat → σ) (n : Nat) :
    Document.ofPanels (passes panels sources (n + 2)) =
        Document.ofPanels (passes panels sources 1) ∧
      (passes panels sources (n + 3)).map draft = (passes panels sources 2).map draft := by
  have same := ofPanels_passes panels sources (n + 1)
  refine ⟨same, ?_⟩
  calc
    (passes panels sources (n + 3)).map draft
      = Draft.ofNode (Document.ofPanels (passes panels sources (n + 2))).toNode :=
        drafts_ofNode _ _
    _ = Draft.ofNode (Document.ofPanels (passes panels sources 1)).toNode := by rw [same]
    _ = (passes panels sources 2).map draft := (drafts_ofNode _ _).symm

/-- Panels that were flattened from a document come back from a second pass as from the first one,
and with the same document, exactly where no header grows when the buttons are left out. -/
theorem pass_fixed_iff_headerSteady (node : Json) (first second third : σ) :
    let panels := (ofNode node first).1
    let once := (ofNode (Document.ofPanels panels).toNode second).1
    let twice := (ofNode (Document.ofPanels once).toNode third).1
    (twice.map draft = once.map draft ∧ Document.ofPanels once = Document.ofPanels panels) ↔
      ∀ panel ∈ panels, panel.draft.HeaderSteady := by
  intro panels once twice
  have settled : ∀ original ∈ panels.map draft, original.Settled := by
    rw [drafts_ofNode]
    exact fun _ => Draft.settled_of_mem_ofNode
  have drafts : once.map draft = Draft.pass (panels.map draft) := drafts_pass panels second
  have document : Document.ofPanels once = Document.ofPanels panels ↔
      ∀ panel ∈ panels, panel.draft.HeaderSteady := by
    rw [Document.ofPanels, Document.ofPanels, drafts, Draft.ofDrafts_pass_eq_iff _ settled]
    exact List.forall_mem_map
  constructor
  · rintro ⟨-, same⟩
    exact document.mp same
  · intro steady
    have same := document.mpr steady
    refine ⟨?_, same⟩
    rw [drafts_ofNode, drafts_ofNode, same]

/-- A bubble whose body has a button above a title. The button keeps the title out of the header
until a pass has put it last. -/
def buttonAboveTitle : Json :=
  .obj [("body", .obj [("backgroundColor", .str "#FFF8E1"),
      ("contents", .arr [
        .obj [("action", .obj [("label", .str "Book"), ("type", .str "uri"),
            ("uri", .str "https://example.com")]), ("type", .str "button")],
        .obj [("color", .str "#333333"), ("size", .str "xl"), ("text", .str "Hours"),
          ("type", .str "text"), ("weight", .str "bold")]]),
      ("layout", .str "vertical"), ("type", .str "box")]),
    ("type", .str "bubble")]

/-- The second pass takes the title of such a bubble into the header, with another document. -/
theorem pass_moves_buttonAboveTitle :
    let source : Sequence := { seed := "p" }
    let panels := (ofNode buttonAboveTitle source).1
    let once := (ofNode (Document.ofPanels panels).toNode source).1
    let twice := (ofNode (Document.ofPanels once).toNode source).1
    twice.map draft ≠ once.map draft ∧ Document.ofPanels once ≠ Document.ofPanels panels := by
  intro source panels once twice
  constructor
  · decide +kernel
  · intro same
    have counts := congrArg (fun document => document.bubbles.map Draft.headerCount) same
    revert counts
    decide +kernel

end Panel

end RichMessage
