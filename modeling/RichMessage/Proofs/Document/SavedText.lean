import RichMessage.Proofs.Document.WellFormed
import RichMessage.Proofs.Files.Writing
import RichMessage.Proofs.Json.Plain
import RichMessage.Session.Basic

set_option autoImplicit false

namespace RichMessage

open Json

theorem Action.plain_toDocumentJson (action : Action) (depth : Nat) :
    action.toDocumentJson.Plain (depth + 1) := by
  cases action with
  | uri address label | message text label =>
      apply plain_obj
      simp

theorem TextElement.plain_toJson (element : TextElement) (depth : Nat) :
    element.toJson.Plain (depth + 1) := by
  apply plain_obj
  obtain ⟨text, size, bold, color, wrap, flex⟩ := element
  cases bold <;> cases wrap <;> simp

theorem BoxLook.plain_members (look : BoxLook) (depth : Nat) :
    PlainMembers depth look.members := by
  simp [BoxLook.members]

namespace Element

mutual
/-- A box has its elements in an array, so that it is nested twice as deep as the boxes are. -/
theorem plain_toJson : (element : Element) → element.toJson.Plain (2 * element.nesting + 2)
  | .box layout contents look => by
      have inner : (arr (listToJson contents)).Plain (2 * listNesting contents + 3) :=
        plain_arr (plain_listToJson contents)
      have fits : 2 * (listNesting contents + 1) + 2 = 2 * listNesting contents + 3 + 1 := by omega
      rw [toJson, nesting, fits]
      apply plain_obj
      simp [inner, look.plain_members]
  | .text element => element.plain_toJson _
  | .image url ratio action => by
      apply plain_obj
      simp [Action.plain_toDocumentJson]
  | .button action style color => by
      apply plain_obj
      simp [Action.plain_toDocumentJson]
  | .separator => by
      apply plain_obj
      simp

theorem plain_listToJson : (contents : List Element) →
    ∀ v ∈ listToJson contents, v.Plain (2 * listNesting contents + 2)
  | [], v, member => by cases member
  | e :: es, v, member => by
      rw [listToJson] at member
      rcases List.mem_cons.mp member with rfl | later
      · refine e.plain_toJson.mono ?_
        rw [listNesting]
        omega
      · refine (plain_listToJson es v later).mono ?_
        rw [listNesting]
        omega
end

end Element

namespace Bubble

/-- The sections of a bubble that keeps its rules are two boxes deep at most. -/
theorem WellFormed.plain_toJson {bubble : Bubble} (wellFormed : bubble.WellFormed) :
    bubble.toJson.Plain 7 := by
  have sections (box : Box) (member : box ∈ bubble.sections) : box.toElement.toJson.Plain 6 := by
    have nested := wellFormed.shallow box member
    exact (Element.plain_toJson box.toElement).mono (by omega)
  simp only [Bubble.sections, List.mem_append, Option.mem_toList, or_imp, forall_and] at sections
  apply plain_obj
  simpa [and_assoc] using sections

end Bubble

namespace Document

theorem plain_toJson_ofDrafts (drafts : List Draft) : (ofDrafts drafts).toJson.Plain 9 := by
  have page (draft : Draft) : draft.toBubble.toJson.Plain 7 :=
    draft.wellFormed_toBubble.plain_toJson
  rcases drafts with _ | ⟨first, _ | ⟨second, rest⟩⟩
  · exact (page (Draft.empty none)).mono (by decide)
  · exact (page first).mono (by decide)
  · have pages :
        (arr (((first :: second :: rest).map Draft.toBubble).map Bubble.toJson)).Plain 8 := by
      apply plain_arr
      simp [page]
    apply plain_obj
    simpa using pages

/-- The text of an assembled document is read as its tree. -/
theorem parse?_print_ofPanels (panels : List Panel) (layout : Layout) :
    parse? ((ofPanels panels).toJson.print layout) = some (ofPanels panels).toNode :=
  parse?_print_of_plain (plain_toJson_ofDrafts (panels.map Panel.draft)) (by decide) layout

end Document

namespace Session

variable {σ τ : Type} [IdSource τ]

theorem loadFile_of_save {session : Session σ} {files saved : FileTree} {path : String}
    (done : session.save files path = .ok saved) (other : Session τ) :
    other.loadFile saved path = .ok (other.load session.document.toNode) := by
  have written : files.writeText path session.savedText = .ok saved := by
    unfold save at done
    split at done
    · rename_i kept
      cases done
      exact kept
    · cases done
  have read := FileTree.readText_of_writeText written
  have parsed : parse? session.savedText = some session.document.toNode :=
    Document.parse?_print_ofPanels session.panels .indented
  rw [loadFile, read, loadRead, loadText, parsed]

theorem drafts_load (session : Session τ) (document : Json) :
    (session.load document).panels.map Panel.draft = draftsOf session.options document :=
  Draft.drafts_numberAll _ session.source

theorem draftsOf_of_ne_nil {options : SessionOptions} {node : Json}
    (some : Draft.ofNode node ≠ []) : draftsOf options node = Draft.ofNode node := by
  unfold draftsOf
  split
  · rename_i none
    exact absurd none some
  · rfl

/-- An assembled document has a bubble, so no session makes a panel of its own for it. -/
theorem draftsOf_ofPanels (options : SessionOptions) (panels : List Panel) :
    draftsOf options (Document.ofPanels panels).toNode =
      Draft.ofNode (Document.ofPanels panels).toNode := by
  apply draftsOf_of_ne_nil
  rw [Document.ofPanels, Draft.ofNode_ofDrafts]
  cases panels <;> simp

/-- The text of a document in either layout is read as its tree, and every file that a session has
saved is loaded as the document of that session, by any session. The blocks and settings that come
out are those of loading the tree itself. -/
theorem save_then_loadFile {υ : Type} [IdSource υ] :
    (∀ (panels : List Panel) (layout : Layout),
      parse? ((Document.ofPanels panels).toJson.print layout) =
        some (Document.ofPanels panels).toNode) ∧
    ∀ (session : Session σ) (files saved : FileTree) (path : String),
      session.save files path = .ok saved →
      ∀ (reader : Session τ) (other : Session υ), ∃ loaded,
        reader.loadFile saved path = .ok loaded ∧
        loaded = reader.load (Document.ofPanels session.panels).toNode ∧
        loaded.panels.map Panel.draft =
          (other.load (Document.ofPanels session.panels).toNode).panels.map Panel.draft := by
  refine ⟨Document.parse?_print_ofPanels, ?_⟩
  intro session files saved path done reader other
  refine ⟨_, loadFile_of_save done reader, rfl, ?_⟩
  rw [drafts_load, drafts_load, Session.document, draftsOf_ofPanels, draftsOf_ofPanels]

theorem new_session_saves_and_loads :
    let session := create {} ({ seed := "p" } : Sequence)
    let files : FileTree := .folder []
    ∃ saved, session.save files "/save.json" = .ok saved ∧
      ∃ loaded, session.loadFile saved "/save.json" = .ok loaded ∧
        loaded = session.load (Document.ofPanels session.panels).toNode := by
  intro session files
  have saves : session.save files "/save.json" =
      .ok (files.put ["save.json"] (.file session.savedText.toUTF8)) := rfl
  have reads := (save_then_loadFile (σ := Sequence) (τ := Sequence) (υ := Sequence)).2 session
    files _ "/save.json" saves
  obtain ⟨loaded, done, same, _⟩ := reads session session
  exact ⟨_, saves, loaded, done, same⟩

end Session

end RichMessage
