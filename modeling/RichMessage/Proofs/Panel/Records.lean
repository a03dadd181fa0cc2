import RichMessage.Panel.Mutation
import RichMessage.Proofs.Json.Records

set_option autoImplicit false

namespace RichMessage

open Json Written

variable {write : Json → Written} {w : Written}

namespace Action

/-- Every action has one text and perhaps a label. -/
theorem fields_of_holds (faithful : Faithful write) {name text : String} {label : Option String}
    (differ : "label" ≠ name)
    (holds : Holds write w ([(name, Json.str text)] ++ optionalMember "label" .str label)) :
    ∃ fields, w.record? [name, "label"] = some fields ∧
      required? fields name Written.str? = some text ∧
      optional? fields "label" Written.str? = some label := by
  obtain ⟨fields, read, found⟩ := holds.record? [name, "label"]
  exact ⟨fields, read, found.required (by simp) (by simp) (faithful.str?_write text),
    found.omitted (by simp) (by simp [differ]) rfl faithful.str?_write⟩

theorem read?_write (faithful : Faithful write) (strictness : Strictness) (action : Action) :
    read? strictness (write action.toJson) = some action := by
  cases action with
  | uri text label | message text label =>
      refine faithful.bind_tagged? (by simp) (by cases label <;> simp [optionalMember, tagName])
        fun w holds => ?_
      obtain ⟨fields, read, first, second⟩ := fields_of_holds faithful (by simp) holds
      simp [readUri?, readMessage?, read, first, second]

end Action

theorem TitleBlock.read?_of_holds (faithful : Faithful write) (strictness : Strictness)
    {block : TitleBlock} (holds : Holds write w block.members) :
    read? strictness w = some block := by
  obtain ⟨fields, read, found⟩ := holds.record? ["text", "size", "color"]
  have text : required? fields "text" Written.str? = some block.text :=
    found.required (by simp) (by simp [members]) (faithful.str?_write block.text)
  have size : defaulted? fields "size" .xl (Keyword.read? strictness) = some block.size :=
    found.defaulted (by simp) (by simp [members]) (faithful.keyword_write strictness block.size) .xl
  have color : optional? fields "color" Written.str? = some block.color :=
    found.omitted (by simp) (by simp [members]) rfl faithful.str?_write
  simp [read?, read, text, size, color]

theorem TextBlock.read?_of_holds (faithful : Faithful write) (strictness : Strictness)
    {block : TextBlock} (holds : Holds write w block.members) :
    read? strictness w = some block := by
  obtain ⟨fields, read, found⟩ := holds.record? ["text", "size", "color", "wrap"]
  have text : required? fields "text" Written.str? = some block.text :=
    found.required (by simp) (by simp [members]) (faithful.str?_write block.text)
  have size : optional? fields "size" (Keyword.read? strictness) = some block.size :=
    found.omitted (by simp) (by simp [members]) rfl (faithful.keyword_write strictness)
  have color : optional? fields "color" Written.str? = some block.color :=
    found.omitted (by simp) (by simp [members]) rfl faithful.str?_write
  have wrap : defaulted? fields "wrap" false Written.bool? = some block.wrap :=
    found.defaulted (by simp) (by simp [members]) (faithful.bool?_write block.wrap) false
  simp [read?, read, text, size, color, wrap]

theorem ImageBlock.read?_of_holds (faithful : Faithful write) (strictness : Strictness)
    {block : ImageBlock} (holds : Holds write w block.members) :
    read? strictness w = some block := by
  obtain ⟨fields, read, found⟩ := holds.record? ["url", "aspectRatio", "action"]
  have url : required? fields "url" Written.str? = some block.url :=
    found.required (by simp) (by simp [members]) (faithful.str?_write block.url)
  have ratio : defaulted? fields "aspectRatio" default (Keyword.read? strictness) =
      some block.ratio :=
    found.defaulted (by simp) (by simp [members]) (faithful.keyword_write strictness block.ratio) _
  have action : optional? fields "action" (Action.read? strictness) = some block.action :=
    found.omitted (by simp) (by simp [members]) rfl (Action.read?_write faithful strictness)
  simp [read?, read, url, ratio, action]

theorem ButtonBlock.read?_of_holds (faithful : Faithful write) (strictness : Strictness)
    {block : ButtonBlock} (holds : Holds write w block.members) :
    read? strictness w = some block := by
  obtain ⟨fields, read, found⟩ := holds.record? ["label", "style", "color", "action"]
  have label : required? fields "label" Written.str? = some block.label :=
    found.required (by simp) (by simp [members]) (faithful.str?_write block.label)
  have style : defaulted? fields "style" default (Keyword.read? strictness) = some block.style :=
    found.defaulted (by simp) (by simp [members]) (faithful.keyword_write strictness block.style) _
  have color : optional? fields "color" Written.str? = some block.color :=
    found.omitted (by simp) (by simp [members]) rfl faithful.str?_write
  have action : defaulted? fields "action" default (Action.read? strictness) = some block.action :=
    found.defaulted (by simp) (by simp [members])
      (Action.read?_write faithful strictness block.action) _
  simp [read?, read, label, style, color, action]

namespace Content

/-- No field of a content has the name of another one or of the tag. -/
theorem names_apart (content : Content) :
    (((tagName, Keyword.toJson content.kind) :: content.members).map Prod.fst).Nodup := by
  cases content with
  | title block =>
      obtain ⟨text, size, color⟩ := block
      cases color <;> simp [members, TitleBlock.members, optionalMember, tagName]
  | text block =>
      obtain ⟨text, size, color, wrap⟩ := block
      cases size <;> cases color <;>
        simp [members, TextBlock.members, optionalMember, tagName]
  | image block =>
      obtain ⟨url, ratio, action⟩ := block
      cases action <;> simp [members, ImageBlock.members, optionalMember, tagName]
  | button block =>
      obtain ⟨label, style, color, action⟩ := block
      cases color <;> simp [members, ButtonBlock.members, optionalMember, tagName]
  | separator => simp [members]

theorem readFields?_of_holds (faithful : Faithful write) {content : Content}
    (holds : Holds write w content.members) : readFields? content.kind w = some content := by
  cases content with
  | title block => exact congrArg (Option.map title) (block.read?_of_holds faithful .lenient holds)
  | text block => exact congrArg (Option.map text) (block.read?_of_holds faithful .lenient holds)
  | image block => exact congrArg (Option.map image) (block.read?_of_holds faithful .lenient holds)
  | button block =>
      exact congrArg (Option.map button) (block.read?_of_holds faithful .lenient holds)
  | separator =>
      obtain ⟨_, held, rfl, _⟩ := holds
      rfl

theorem read?_write (faithful : Faithful write) (strictness : Strictness) (content : Content) :
    read? strictness (write content.toJson) = some content := by
  have known : Keyword.spelling content.kind ∈ tags :=
    List.mem_map_of_mem (Keyword.all_complete content.kind)
  refine faithful.bind_tagged? known content.names_apart fun fields holds => ?_
  dsimp only
  rw [Keyword.parse?_spelling, Option.bind_some, readFields?_of_holds faithful holds]

end Content

theorem Block.read?_write (faithful : Faithful write) (strictness : Strictness) (block : Block) :
    read? strictness (write block.toJson) = some block := by
  have holds : Holds write (write block.toJson)
      [("id", .str block.id), ("props", block.content.toJson)] := faithful.holds (by simp)
  obtain ⟨fields, read, found⟩ := holds.record? ["id", "props"]
  have id : required? fields "id" Written.str? = some block.id :=
    found.required (by simp) (by simp) (faithful.str?_write block.id)
  have content : required? fields "props" (Content.read? strictness) = some block.content :=
    found.required (by simp) (by simp) (block.content.read?_write faithful strictness)
  simp [read?, read, id, content]

theorem Settings.read?_write (faithful : Faithful write) (strictness : Strictness)
    (settings : Settings) : read? strictness (write settings.toJson) = some settings := by
  have holds : Holds write (write settings.toJson)
      [("backgroundColor", .str settings.background), ("themeColor", .str settings.theme),
        ("size", Keyword.toJson settings.size)] := faithful.holds (by simp)
  obtain ⟨fields, read, found⟩ := holds.record? ["backgroundColor", "themeColor", "size"]
  have background : required? fields "backgroundColor" Written.str? = some settings.background :=
    found.required (by simp) (by simp) (faithful.str?_write settings.background)
  have theme : required? fields "themeColor" Written.str? = some settings.theme :=
    found.required (by simp) (by simp) (faithful.str?_write settings.theme)
  have size : defaulted? fields "size" default (Keyword.read? strictness) = some settings.size :=
    found.defaulted (by simp) (by simp) (faithful.keyword_write strictness settings.size) _
  simp [read?, read, background, theme, size]

namespace Panel

theorem read?_write (faithful : Faithful write) (strictness : Strictness) (panel : Panel) :
    read? strictness (write panel.toJson) = some panel := by
  have holds : Holds write (write panel.toJson)
      [("id", .str panel.id), ("settings", panel.settings.toJson),
        ("blocks", .arr (panel.blocks.map Block.toJson))] := faithful.holds (by simp)
  obtain ⟨fields, read, found⟩ := holds.record? ["id", "settings", "blocks"]
  have id : required? fields "id" Written.str? = some panel.id :=
    found.required (by simp) (by simp) (faithful.str?_write panel.id)
  have settings : required? fields "settings" (Settings.read? strictness) = some panel.settings :=
    found.required (by simp) (by simp) (panel.settings.read?_write faithful strictness)
  have blocks : required? fields "blocks" (Written.list? (Block.read? strictness)) =
      some panel.blocks :=
    found.required (by simp) (by simp)
      (faithful.list?_write (Block.read?_write faithful strictness) panel.blocks)
  simp [read?, read, id, settings, blocks]

theorem readList?_write (faithful : Faithful write) (panels : List Panel) :
    readList? (write (listToJson panels)) = some panels :=
  faithful.list?_write (read?_write faithful .strict) panels

end Panel

namespace Mutation

theorem read?_write (faithful : Faithful write) (strictness : Strictness) (mutation : Mutation) :
    read? strictness (write mutation.toJson) = some mutation := by
  cases mutation with
  | addBlock panel kind index =>
      refine faithful.bind_tagged? (by simp [tags]) (by simp [tagName]) fun w holds => ?_
      obtain ⟨fields, read, found⟩ := holds.record? ["panelId", "blockType", "index"]
      have first : required? fields "panelId" Written.str? = some panel :=
        found.required (by simp) (by simp) (faithful.str?_write panel)
      have second : required? fields "blockType" (Keyword.read? .lenient) = some kind :=
        found.required (by simp) (by simp) (faithful.keyword_write .lenient kind)
      have third : optional? fields "index" Written.word? = some index :=
        found.nullable faithful (by simp) (by simp) rfl faithful.word?_write
      simp [readFields?, read, first, second, third]
  | updateBlock panel block content =>
      refine faithful.bind_tagged? (by simp [tags]) (by simp [tagName]) fun w holds => ?_
      obtain ⟨fields, read, found⟩ := holds.record? ["panelId", "blockId", "props"]
      have first : required? fields "panelId" Written.str? = some panel :=
        found.required (by simp) (by simp) (faithful.str?_write panel)
      have second : required? fields "blockId" Written.str? = some block :=
        found.required (by simp) (by simp) (faithful.str?_write block)
      have third : required? fields "props" (Content.read? .lenient) = some content :=
        found.required (by simp) (by simp) (content.read?_write faithful .lenient)
      simp [readFields?, read, first, second, third]
  | removeBlock panel block | duplicateBlock panel block =>
      refine faithful.bind_tagged? (by simp [tags]) (by simp [tagName]) fun w holds => ?_
      obtain ⟨fields, read, found⟩ := holds.record? ["panelId", "blockId"]
      have first : required? fields "panelId" Written.str? = some panel :=
        found.required (by simp) (by simp) (faithful.str?_write panel)
      have second : required? fields "blockId" Written.str? = some block :=
        found.required (by simp) (by simp) (faithful.str?_write block)
      simp [readFields?, read, first, second]
  | moveBlock panel source target =>
      refine faithful.bind_tagged? (by simp [tags]) (by simp [tagName]) fun w holds => ?_
      obtain ⟨fields, read, found⟩ := holds.record? ["panelId", "from", "to"]
      have first : required? fields "panelId" Written.str? = some panel :=
        found.required (by simp) (by simp) (faithful.str?_write panel)
      have second : required? fields "from" Written.word? = some source :=
        found.required (by simp) (by simp) (faithful.word?_write source)
      have third : required? fields "to" Written.word? = some target :=
        found.required (by simp) (by simp) (faithful.word?_write target)
      simp [readFields?, read, first, second, third]
  | addPanel index theme =>
      refine faithful.bind_tagged? (by simp [tags]) (by simp [tagName]) fun w holds => ?_
      obtain ⟨fields, read, found⟩ := holds.record? ["index", "themeColor"]
      have first : optional? fields "index" Written.word? = some index :=
        found.nullable faithful (by simp) (by simp) rfl faithful.word?_write
      have second : optional? fields "themeColor" Written.str? = some theme :=
        found.nullable faithful (by simp) (by simp) rfl faithful.str?_write
      simp [readFields?, read, first, second]
  | updateSettings panel settings =>
      refine faithful.bind_tagged? (by simp [tags]) (by simp [tagName]) fun w holds => ?_
      obtain ⟨fields, read, found⟩ := holds.record? ["panelId", "settings"]
      have first : required? fields "panelId" Written.str? = some panel :=
        found.required (by simp) (by simp) (faithful.str?_write panel)
      have second : required? fields "settings" (Settings.read? .lenient) = some settings :=
        found.required (by simp) (by simp) (settings.read?_write faithful .lenient)
      simp [readFields?, read, first, second]
  | duplicatePanel panel | removePanel panel =>
      refine faithful.bind_tagged? (by simp [tags]) (by simp [tagName]) fun w holds => ?_
      obtain ⟨fields, read, found⟩ := holds.record? ["panelId"]
      have first : required? fields "panelId" Written.str? = some panel :=
        found.required (by simp) (by simp) (faithful.str?_write panel)
      simp [readFields?, read, first]
  | movePanel source target =>
      refine faithful.bind_tagged? (by simp [tags]) (by simp [tagName]) fun w holds => ?_
      obtain ⟨fields, read, found⟩ := holds.record? ["from", "to"]
      have first : required? fields "from" Written.word? = some source :=
        found.required (by simp) (by simp) (faithful.word?_write source)
      have second : required? fields "to" Written.word? = some target :=
        found.required (by simp) (by simp) (faithful.word?_write target)
      simp [readFields?, read, first, second]

end Mutation

theorem Action.plain_toJson (action : Action) (depth : Nat) : action.toJson.Plain (depth + 1) := by
  cases action with
  | uri address label | message text label =>
      apply plain_obj
      simp

theorem Content.plain_toJson (content : Content) : content.toJson.Plain 2 := by
  apply plain_obj
  cases content with
  | title block => simp [members, TitleBlock.members]
  | text block => simp [members, TextBlock.members]
  | image block => simp [members, ImageBlock.members, Action.plain_toJson]
  | button block => simp [members, ButtonBlock.members, Action.plain_toJson]
  | separator => simp [members]

theorem Block.plain_toJson (block : Block) : block.toJson.Plain 3 := by
  apply plain_obj
  simp [block.content.plain_toJson]

theorem Settings.plain_toJson (settings : Settings) (depth : Nat) :
    settings.toJson.Plain (depth + 1) := by
  apply plain_obj
  simp

theorem Panel.plain_toJson (panel : Panel) : panel.toJson.Plain 5 := by
  have blocks : (arr (panel.blocks.map Block.toJson)).Plain 4 := by
    apply plain_arr
    simp [Block.plain_toJson]
  apply plain_obj
  simp [panel.settings.plain_toJson, blocks]

theorem Panel.plain_listToJson (panels : List Panel) : (listToJson panels).Plain 6 := by
  apply plain_arr
  simp [Panel.plain_toJson]

theorem Mutation.plain_toJson (mutation : Mutation) : mutation.toJson.Plain 3 := by
  cases mutation with
  | updateBlock panel block content =>
      apply plain_obj
      simp [content.plain_toJson]
  | updateSettings panel settings =>
      apply plain_obj
      simp [settings.plain_toJson]
  | addBlock panel kind index | addPanel index theme | moveBlock panel source target
  | movePanel source target | removeBlock panel block | duplicateBlock panel block
  | duplicatePanel panel | removePanel panel =>
      apply plain_obj
      simp

/-- The text of a list of panels is read as these panels. -/
theorem Panel.readList?_text (panels : List Panel) (layout : Layout) :
    (Written.parse? ((listToJson panels).print layout)).bind readList? = some panels := by
  rw [Written.parse?_print_of_plain (plain_listToJson panels) (by decide), Option.bind_some,
    readList?_write faithful_ofJson]

/-- Panels and mutations come back from their compact and their indented text, and from the values
that are written, with the members of their objects in the order of their fields or of their names.
-/
theorem panels_and_mutations_read_back :
    (∀ panels : List Panel,
      (∀ layout, (Written.parse? ((Panel.listToJson panels).print layout)).bind Panel.readList? =
        some panels) ∧
      Panel.readList? (.ofJson (Panel.listToJson panels)) = some panels ∧
      Panel.readList? (.ofJson (Panel.listToJson panels).canonical) = some panels) ∧
    ∀ mutation : Mutation,
      (∀ layout, (Written.parse? (mutation.toJson.print layout)).bind (Mutation.read? .strict) =
        some mutation) ∧
      Mutation.read? .strict (.ofJson mutation.toJson) = some mutation ∧
      Mutation.read? .strict (.ofJson mutation.toJson.canonical) = some mutation := by
  constructor
  · intro panels
    exact ⟨Panel.readList?_text panels, Panel.readList?_write faithful_ofJson panels,
      Panel.readList?_write faithful_canonical panels⟩
  · intro mutation
    have plain := mutation.plain_toJson
    refine ⟨fun layout => ?_, mutation.read?_write faithful_ofJson .strict,
      mutation.read?_write faithful_canonical .strict⟩
    rw [Written.parse?_print_of_plain plain (by decide), Option.bind_some,
      mutation.read?_write faithful_ofJson]

end RichMessage
