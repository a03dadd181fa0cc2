import RichMessage.Proofs.Command.Running
import RichMessage.Proofs.Document.SavedText
import RichMessage.Proofs.Panel.Records

set_option autoImplicit false

/- The normal form of a document can be had at once or by way of a file: one command writes the
panels of the document and another one makes a document of them. Identifiers differ from command to
command, but neither the text of the panels nor the assembled document loses a draft, and the drafts
are all that a document is made of. The two ways differ only where there is no bubble: there the
session has a panel of its own, and the command that only decompiles refuses. -/
namespace RichMessage

namespace Json

theorem isObject_of_hasType {node : Json} {type : String} (typed : node.hasType type = true) :
    node.isObject = true := by
  cases node <;> first | rfl | cases typed

end Json

namespace Draft

/-- What has no bubble in it: a value other than an object, and a carousel without an object. -/
theorem ofNode_eq_nil_iff (document : Json) :
    ofNode document = [] ↔
      (unwrap document).isObject = false ∨
        ((unwrap document).hasType "carousel" = true ∧
          ∀ content ∈ (unwrap document).contents, content.isObject = false) := by
  unfold ofNode
  dsimp only
  by_cases carousel : (unwrap document).hasType "carousel" = true
  · simp [carousel, Json.isObject_of_hasType carousel]
  · cases object : (unwrap document).isObject <;> simp [carousel]

end Draft

namespace Session

variable {σ : Type} [IdSource σ]

/-- A loaded document is assembled from its drafts. -/
theorem document_load (session : Session σ) (node : Json) :
    (session.load node).document = Document.ofDrafts (draftsOf session.options node) := by
  rw [document, Document.ofPanels, drafts_load]

end Session

namespace Command

variable {files touched : FileTree} {folder doc out text : String} {config : Config}
  {node : Json} {request : Request} {done : Report}

/-- The text of the normal form of a document. -/
def normalText (config : Config) (node : Json) : String :=
  (Document.ofDrafts (Session.draftsOf config.options node)).toJson.print config.layout

theorem print_loaded (config : Config) (clock : ClockSource) (node : Json) :
    ((Session.create config.options clock).load node).document.toJson.print config.layout =
      normalText config node := by
  rw [Session.document_load]
  rfl

theorem drafts_panelsOf (node : Json) (seed : Option String) (clock : ClockSource) :
    (panelsOf node seed clock).map Panel.draft = Draft.ofNode node := by
  cases seed <;> exact Draft.drafts_numberAll _ _

theorem report_roundtrip (readable : files.readText (resolve folder doc) = .ok text)
    (parsed : Json.parse? text = some node) (config : Config) (panels : Bool)
    (destination : Destination) (clock : ClockSource) :
    let session := (Session.create config.options clock).load node
    ∃ notices, report (.roundtrip doc panels destination) config (resolve folder doc)
        (files.readText (resolve folder doc)) clock =
      .ok ⟨notices,
        if panels then Panel.listToJson session.panels else session.document.toJson⟩ := by
  intro session
  simp only [report, roundtrip, readable, Session.loadRead, Session.loadText, parsed]
  exact ⟨_, rfl⟩

theorem read_of_report_roundtrip {panels : Bool} {destination : Destination} {clock : ClockSource}
    (reported : report (.roundtrip doc panels destination) config (resolve folder doc)
      (files.readText (resolve folder doc)) clock = .ok done) :
    ∃ text node, files.readText (resolve folder doc) = .ok text ∧ Json.parse? text = some node := by
  cases readable : files.readText (resolve folder doc) with
  | error reason =>
      rw [readable] at reported
      cases reported
  | ok text =>
      cases parsed : Json.parse? text with
      | none =>
          simp only [report, roundtrip, readable, Session.loadRead, Session.loadText,
            parsed] at reported
          cases reported
      | some node => exact ⟨text, node, rfl, parsed⟩

/-- A round trip shows the normal form. -/
theorem run_roundtrip (configured : configOf (configRead files folder) = .ok config)
    (readable : files.readText (resolve folder doc) = .ok text)
    (parsed : Json.parse? text = some node) (detail : String) (clock : ClockSource) :
    (run files folder detail clock (.roundtrip doc false .screen)).exit = 0 ∧
      (run files folder detail clock (.roundtrip doc false .screen)).stdout =
        lines [normalText config node] := by
  obtain ⟨notices, reported⟩ := report_roundtrip readable parsed config false .screen clock
  rw [run_of_report configured clock reported, ← print_loaded config clock node]
  exact ⟨rfl, rfl⟩

theorem report_decompile (readable : files.readText (resolve folder doc) = .ok text)
    (parsed : Json.parse? text = some node) (config : Config) (seed : Option String)
    (destination : Destination) (clock : ClockSource) :
    let reported := report (.decompile doc seed destination) config (resolve folder doc)
      (files.readText (resolve folder doc)) clock
    if Draft.ofNode node = [] then reported = .error (.noBubble (resolve folder doc))
    else ∃ notices, reported = .ok ⟨notices, Panel.listToJson (panelsOf node seed clock)⟩ := by
  have drafts := drafts_panelsOf node seed clock
  simp only [report, inputJson, inputText, readable, bind, Except.bind, parsed, decompile]
  cases found : panelsOf node seed clock with
  | nil =>
      rw [found, List.map_nil] at drafts
      rw [if_pos drafts.symm]
  | cons panel rest =>
      rw [found, List.map_cons] at drafts
      rw [if_neg (by rw [← drafts]; exact List.cons_ne_nil _ _)]
      exact ⟨_, rfl⟩

/-- Compiling the file at a path shows this. -/
def CompilesTo (files : FileTree) (folder path shown : String) : Prop :=
  ∀ detail clock,
    (run files folder detail clock (.compile path .screen)).exit = 0 ∧
      (run files folder detail clock (.compile path .screen)).stdout = shown

theorem compilesTo_of_readText (configured : configOf (configRead files folder) = .ok config)
    {panels : List Panel} {layout : Json.Layout}
    (readable : files.readText (resolve folder out) =
      .ok ((Panel.listToJson panels).print layout)) :
    CompilesTo files folder out
      (lines [(Document.ofPanels panels).toJson.print config.layout]) := by
  intro detail clock
  have reported : report (.compile out .screen) config (resolve folder out)
      (files.readText (resolve folder out)) clock = .ok (compile panels) := by
    simp only [report, inputPanels, inputText, readable, bind, Except.bind,
      Panel.readList?_text, pure, Except.pure]
  rw [run_of_report configured clock reported]
  exact ⟨rfl, rfl⟩

/-- Panels that a command writes are compiled by the next one. -/
theorem compilesTo_of_report (configured : configOf (configRead files folder) = .ok config)
    (output : Output files touched folder out) {clock : ClockSource} {notices : List String}
    {panels : List Panel}
    (reported : report request config (resolve folder request.input)
      (files.readText (resolve folder request.input)) clock =
        .ok ⟨notices, Panel.listToJson panels⟩)
    (asked : resultPath? folder request = some (resolve folder out)) (detail : String) :
    (run files folder detail clock request).exit = 0 ∧
      CompilesTo (run files folder detail clock request).files folder out
        (lines [(Document.ofPanels panels).toJson.print config.layout]) := by
  obtain ⟨written, kept⟩ := output.kept ((Panel.listToJson panels).print config.layout)
  rw [run_of_writeResult configured clock reported asked kept]
  refine ⟨rfl, compilesTo_of_readText ?_ (readText_of_writeResult kept)⟩
  rw [output.configRead_eq kept]
  exact configured

/-- Where a document can be brought into its normal form, it comes out the same by way of a file of
panels: those of a round trip, and those that are decompiled with or without a seed. Without a
bubble in the document nothing is decompiled and nothing written. -/
theorem pipelines_agree {detail : String} {clock : ClockSource}
    (ended : (run files folder detail clock (.roundtrip doc false .screen)).exit = 0)
    (output : Output files touched folder out) :
    let shown := (run files folder detail clock (.roundtrip doc false .screen)).stdout
    (∀ detail clock,
      let made := run files folder detail clock (.roundtrip doc true (.file out))
      made.exit = 0 ∧ CompilesTo made.files folder out shown) ∧
    ∃ text node, files.readText (resolve folder doc) = .ok text ∧ Json.parse? text = some node ∧
      ∀ seed detail clock,
        let root := Draft.unwrap node
        let made := run files folder detail clock (.decompile doc seed (.file out))
        if root.isObject = false ∨ (root.hasType "carousel" = true ∧
            ∀ content ∈ root.contents, content.isObject = false) then
          made = failed detail files (.noBubble (resolve folder doc))
        else made.exit = 0 ∧ CompilesTo made.files folder out shown := by
  obtain ⟨config, _, configured, reported⟩ := report_of_exit_zero ended
  obtain ⟨text, node, readable, parsed⟩ := read_of_report_roundtrip reported
  rw [(run_roundtrip configured readable parsed detail clock).2]
  constructor
  · intro detail clock
    obtain ⟨notices, reported⟩ :=
      report_roundtrip readable parsed config true (.file out) clock
    rw [← print_loaded config clock node]
    exact compilesTo_of_report configured output reported rfl detail
  · refine ⟨text, node, readable, parsed, fun seed detail clock => ?_⟩
    have reported := report_decompile readable parsed config seed (.file out) clock
    intro root made
    by_cases none : Draft.ofNode node = []
    · rw [if_pos ((Draft.ofNode_eq_nil_iff node).mp none)]
      rw [if_pos none] at reported
      exact run_of_refusal configured clock reported detail
    · rw [if_neg fun shape => none ((Draft.ofNode_eq_nil_iff node).mpr shape)]
      rw [if_neg none] at reported
      obtain ⟨notices, reported⟩ := reported
      rw [normalText, Session.draftsOf_of_ne_nil none, ← drafts_panelsOf node seed clock]
      exact compilesTo_of_report configured output reported rfl detail

theorem output_workingFolder (text : String) :
    ∃ touched, Output (workingFolder text) touched "/work" "p.json" :=
  ⟨_, rfl, nofun, nofun⟩

theorem empty_documents_by_way_of_a_file :
    let clock : ClockSource := { readings := fun _ => 0, process := 0 }
    let shown := fun text =>
      (run (workingFolder text) "/work" "" clock (.roundtrip "doc.json" false .screen)).stdout
    let normalized := fun text =>
      run (workingFolder text) "/work" "" clock (.roundtrip "doc.json" true (.file "p.json"))
    let decompiled := fun text =>
      run (workingFolder text) "/work" "" clock (.decompile "doc.json" none (.file "p.json"))
    (CompilesTo (normalized "{}").files "/work" "p.json" (shown "{}") ∧
      CompilesTo (decompiled "{}").files "/work" "p.json" (shown "{}")) ∧
    (CompilesTo (normalized "[]").files "/work" "p.json" (shown "[]") ∧
      decompiled "[]" = failed "" (workingFolder "[]") (.noBubble "/work/doc.json")) := by
  intro clock shown normalized decompiled
  have object : Json.parse? "{}" = some (.obj []) := rfl
  have array : Json.parse? "[]" = some (.arr []) := rfl
  constructor
  · obtain ⟨touched, output⟩ := output_workingFolder "{}"
    have ended := (run_roundtrip rfl (readText_workingFolder "{}") object "" clock).1
    obtain ⟨panels, _, node, readable, parsed, decompiles⟩ := pipelines_agree ended output
    cases (readText_workingFolder "{}").symm.trans readable
    cases object.symm.trans parsed
    exact ⟨(panels "" clock).2, (decompiles none "" clock).2⟩
  · obtain ⟨touched, output⟩ := output_workingFolder "[]"
    have ended := (run_roundtrip rfl (readText_workingFolder "[]") array "" clock).1
    obtain ⟨panels, _, node, readable, parsed, decompiles⟩ := pipelines_agree ended output
    cases (readText_workingFolder "[]").symm.trans readable
    cases array.symm.trans parsed
    exact ⟨(panels "" clock).2, decompiles none "" clock⟩

/-- A working folder in which a folder has the name of the configuration and holds a file of panels.
-/
def shadowedFolder (text panels : String) : FileTree :=
  .folder [("work", .folder [("doc.json", .file text.toUTF8),
    ("flexcraft.config.json", .folder [("p.json", .file panels.toUTF8)])])]

theorem writeResult_shadowedFolder (text panels : String) :
    writeResult (workingFolder text) (resolve "/work" "flexcraft.config.json/p.json") panels =
      (.ok (), shadowedFolder text panels) :=
  rfl

theorem locate_shadowedFolder (text panels : String) :
    let files := shadowedFolder text panels
    files.locate (resolve "/work" "flexcraft.config.json/p.json") =
        .ok ["work", "flexcraft.config.json", "p.json"] ∧
      files.locate (resolve "/work" "doc.json") = .ok ["work", "doc.json"] ∧
      files.locate (resolve "/work" Config.fileName) = .ok ["work", "flexcraft.config.json"] :=
  ⟨rfl, rfl, rfl⟩

theorem configOf_shadowedFolder (text panels : String) :
    configOf (configRead (shadowedFolder text panels) "/work") =
      .error (.config .isDirectory) :=
  rfl

/-- A folder that is made for a file of panels can have the name of the configuration, and then no
command runs any more. -/
theorem panels_below_configuration_are_not_compiled :
    let files := workingFolder "{}"
    let out := "flexcraft.config.json/p.json"
    let clock : ClockSource := { readings := fun _ => 0, process := 0 }
    let normal := run files "/work" "" clock (.roundtrip "doc.json" false .screen)
    let made := run files "/work" "" clock (.roundtrip "doc.json" true (.file out))
    let compiled := run made.files "/work" "" clock (.compile out .screen)
    normal.exit = 0 ∧ made.exit = 0 ∧
      made.files.locate (resolve "/work" out) ≠ made.files.locate (resolve "/work" "doc.json") ∧
      made.files.locate (resolve "/work" out) ≠
        made.files.locate (resolve "/work" Config.fileName) ∧
      compiled.exit = 1 ∧ compiled.stdout ≠ normal.stdout := by
  intro files out clock normal made compiled
  have parsed : Json.parse? "{}" = some (.obj []) := rfl
  have readable := readText_workingFolder "{}"
  obtain ⟨ended, shown⟩ := run_roundtrip rfl readable parsed "" clock
  obtain ⟨notices, reported⟩ := report_roundtrip readable parsed {} true (.file out) clock
  have ran := run_of_writeResult rfl clock reported rfl (writeResult_shadowedFolder "{}" _) ""
  obtain ⟨panels, left⟩ : ∃ panels, made.files = shadowedFolder "{}" panels :=
    ⟨_, congrArg Outcome.files ran⟩
  obtain ⟨target, source, shadow⟩ := locate_shadowedFolder "{}" panels
  have fails : compiled = failed "" (shadowedFolder "{}" panels) (.config .isDirectory) := by
    rw [← run_of_no_config (configOf_shadowedFolder "{}" panels) "" clock (.compile out .screen),
      ← left]
  refine ⟨ended, congrArg Outcome.exit ran, ?_, ?_, ?_, ?_⟩
  · rw [left, target, source]
    exact nofun
  · rw [left, target, shadow]
    exact nofun
  · rw [fails]
    rfl
  · rw [fails]
    intro same
    exact lines_ne_empty _ _ (same.trans shown).symm

end Command

end RichMessage
