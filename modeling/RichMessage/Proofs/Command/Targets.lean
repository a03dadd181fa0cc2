import RichMessage.Proofs.Command.Arguments
import RichMessage.Proofs.Command.InPlace
import RichMessage.Proofs.Document.SavedText
import RichMessage.Proofs.Panel.Records
import RichMessage.Proofs.Path.Resolution

set_option autoImplicit false

namespace RichMessage

namespace Command

variable {files after : FileTree} {folder path text : String} {config : Config}
  {clock : ClockSource} {request : Request} {result : Json} {done : Report} {line : CommandLine}

/-- The edit that a request makes of a document. -/
def Request.edit? : Request → Option Edit
  | .set _ place value _ => some (.set (Path.parse place) (argumentValue value))
  | .remove _ place _ => some (.remove (Path.parse place))
  | _ => none

/-- What a request makes of the text of its input. -/
inductive Makes (config : Config) (clock : ClockSource) (text : String) : Request → Json → Prop
  | decompiled {input : String} {seed : Option String} {destination : Destination}
      {document : Json} (parsed : Json.parse? text = some document)
      (present : panelsOf document seed clock ≠ []) :
      Makes config clock text (.decompile input seed destination)
        (Panel.listToJson (panelsOf document seed clock))
  | compiled {input : String} {destination : Destination} {panels : List Panel}
      (parsed : (Written.parse? text).bind Panel.readList? = some panels) :
      Makes config clock text (.compile input destination) (Document.ofPanels panels).toJson
  | normalized {input : String} {panels : Bool} {destination : Destination} {document : Json}
      (parsed : Json.parse? text = some document) :
      Makes config clock text (.roundtrip input panels destination)
        (let session := (Session.create config.options clock).load document
        if panels then Panel.listToJson session.panels else session.document.toJson)
  | found {input place : String} {document value : Json}
      (parsed : Json.parse? text = some document)
      (there : document.at? (Path.parse place) = some value) :
      Makes config clock text (.get input place) value
  | edited {request : Request} {edit : Edit} {document : Json} (asked : request.edit? = some edit)
      (parsed : Json.parse? text = some document) :
      Makes config clock text request ((edit.effect? document).getD document)

theorem inputText_eq_ok_iff {read : Except FileError String} :
    inputText path read = .ok text ↔ read = .ok text := by
  cases read with
  | error reason => simp [inputText]
  | ok found => simp [inputText]

theorem inputJson_eq_ok_iff {read : Except FileError String} {document : Json} :
    inputJson path read = .ok document ↔
      ∃ text, read = .ok text ∧ Json.parse? text = some document := by
  unfold inputJson
  rw [bind_eq_ok_iff]
  apply exists_congr
  intro text
  rw [inputText_eq_ok_iff]
  cases Json.parse? text <;> simp

theorem inputPanels_eq_ok_iff {read : Except FileError String} {panels : List Panel} :
    inputPanels path read = .ok panels ↔
      ∃ text, read = .ok text ∧ (Written.parse? text).bind Panel.readList? = some panels := by
  unfold inputPanels
  rw [bind_eq_ok_iff]
  apply exists_congr
  intro text
  rw [inputText_eq_ok_iff]
  cases (Written.parse? text).bind Panel.readList? <;> simp

theorem result_edited (document : Json) (edit : Edit) (verb place : String) :
    (edited document edit verb place).result = (edit.effect? document).getD document := by
  unfold edited
  cases edit.effect? document <;> rfl

/-- A command has a result only where it has read its input. -/
theorem makes_of_report {read : Except FileError String}
    (reported : report request config path read clock = .ok done) :
    ∃ text, read = .ok text ∧ Makes config clock text request done.result := by
  cases request with
  | decompile input seed destination =>
      obtain ⟨document, given, reported⟩ := bind_eq_ok_iff.mp reported
      obtain ⟨text, readable, parsed⟩ := inputJson_eq_ok_iff.mp given
      unfold decompile at reported
      split at reported
      · cases reported
      · rename_i present
        cases reported
        exact ⟨text, readable, .decompiled parsed present⟩
  | compile input destination =>
      obtain ⟨panels, given, same⟩ := bind_eq_ok_iff.mp reported
      obtain ⟨text, readable, parsed⟩ := inputPanels_eq_ok_iff.mp given
      cases same
      exact ⟨text, readable, .compiled parsed⟩
  | roundtrip input panels destination =>
      cases read with
      | error reason => cases reported
      | ok text =>
          cases parsed : Json.parse? text with
          | none =>
              simp only [report, roundtrip, Session.loadRead, Session.loadText, parsed] at reported
              cases reported
          | some document =>
              simp only [report, roundtrip, Session.loadRead, Session.loadText, parsed] at reported
              cases reported
              exact ⟨text, rfl, .normalized parsed⟩
  | get input place =>
      obtain ⟨document, given, reported⟩ := bind_eq_ok_iff.mp reported
      obtain ⟨text, readable, parsed⟩ := inputJson_eq_ok_iff.mp given
      unfold get at reported
      split at reported
      · rename_i there
        cases reported
        exact ⟨text, readable, .found parsed there⟩
      · cases reported
  | set input place value destination =>
      obtain ⟨document, given, same⟩ := bind_eq_ok_iff.mp reported
      obtain ⟨text, readable, parsed⟩ := inputJson_eq_ok_iff.mp given
      cases same
      rw [result_edited]
      exact ⟨text, readable, .edited rfl parsed⟩
  | remove input place destination =>
      obtain ⟨document, given, same⟩ := bind_eq_ok_iff.mp reported
      obtain ⟨text, readable, parsed⟩ := inputJson_eq_ok_iff.mp given
      cases same
      rw [result_edited]
      exact ⟨text, readable, .edited rfl parsed⟩

/-- Panels and assembled documents are written without loss. -/
theorem Makes.plain (makes : Makes config clock text request result)
    (unedited : request.edit? = none) (written : request.destination ≠ .screen) :
    result.Plain Reader.maxDepth := by
  have listed (panels : List Panel) : (Panel.listToJson panels).Plain Reader.maxDepth :=
    (Panel.plain_listToJson panels).mono (by decide)
  have assembled (panels : List Panel) : (Document.ofPanels panels).toJson.Plain Reader.maxDepth :=
    (Document.plain_toJson_ofDrafts _).mono (by decide)
  cases makes with
  | decompiled parsed present => exact listed _
  | compiled parsed => exact assembled _
  | normalized parsed =>
      dsimp only
      split
      · exact listed _
      · exact assembled _
  | found parsed there => exact absurd rfl written
  | edited asked parsed =>
      rw [asked] at unedited
      cases unedited

/-- An edit leaves the members of all objects in order. -/
theorem ordered_of_edit {edit : Edit} {document next : Json} (asked : request.edit? = some edit)
    (taken : edit.effect? document = some next) (ordered : document.Ordered) : next.Ordered := by
  have made := Edit.result?_of_effect? taken
  unfold Edit.result? at made
  split at made
  · cases made
  · cases request with
    | set input place value destination =>
        cases asked
        exact Json.inherited_ordered.of_set? made ordered (argumentValue_ordered value)
    | remove input place destination =>
        cases asked
        exact Json.inherited_ordered.of_remove? made ordered
    | decompile | compile | roundtrip | get => cases asked

/-- What an edit leaves is read again as it is, and without an effect it leaves what was read. -/
theorem Makes.canonical (makes : Makes config clock text request result) {edit : Edit}
    (asked : request.edit? = some edit) :
    result.canonical = result ∧ ∃ document, Json.parse? text = some document ∧
      (¬ edit.Resolves document → result = document) := by
  cases makes with
  | decompiled | compiled | normalized | found => cases asked
  | @edited _ other document asked' parsed =>
      cases asked'.symm.trans asked
      have ordered := Json.ordered_of_parse? parsed
      refine ⟨?_, document, parsed, ?_⟩
      · apply Json.canonical_of_ordered
        cases taken : edit.effect? document with
        | none => exact ordered
        | some next => exact ordered_of_edit asked taken ordered
      · intro lost
        rw [Edit.effect?_of_not_resolves lost, Option.getD_none]

/-- Of all files at most the one at a path has changed, and a text is read along the path now. If
the path led somewhere before, it led there. -/
def Stores (files after : FileTree) (path text : String) : Prop :=
  ∃ target, after.locate path = .ok target ∧ after.readText path = .ok text ∧
    (∀ earlier, files.locate path = .ok earlier → earlier = target) ∧
    ∀ location, location ≠ target → after.fileAt location = files.fileAt location

theorem stores_of_writeResult (kept : writeResult files path text = (.ok (), after)) :
    Stores files after path text := by
  have readable := readText_of_writeResult kept
  obtain ⟨made, folders, stored⟩ := writeResult_eq_ok_iff.mp kept
  obtain ⟨front, last, ends, rfl⟩ := FileTree.ends_of_writeText stored
  have gains := FileTree.gainsFolders_makeFoldersFor files path
  rw [folders] at gains
  have seen : (made.put (front ++ [last]) (.file text.toUTF8)).view (front ++ [last]) =
      some (some text.toUTF8) := by
    rw [FileTree.view_put_file ends.free, if_pos rfl]
  have located := ends.locate (FileTree.keeps_put_file ends.free text.toUTF8) seen
  refine ⟨front ++ [last], located, readable, ?_, ?_⟩
  · intro earlier led
    exact ends.location_eq (gains.extends.keeps.locate led)
  · intro location apart
    rw [FileTree.fileAt_put_file ends.free, if_neg apart, gains.fileAt_eq]

/-- A result that cannot be written leaves all files as they are. -/
theorem fileAt_of_writeResult_error {reason : CommandError}
    (failed : writeResult files path text = (.error reason, after)) (location : List String) :
    after.fileAt location = files.fileAt location := by
  have gains := FileTree.gainsFolders_makeFoldersFor files path
  unfold writeResult at failed
  split at failed
  · rename_i folders
    cases failed
    rw [folders] at gains
    exact gains.fileAt_eq location
  · rename_i folders
    rw [folders] at gains
    split at failed
    · cases failed
      exact gains.fileAt_eq location
    · cases failed

/-- A text has gone where a command line sends its result. -/
def CommandLine.Reaches (line : CommandLine) (files after : FileTree) (folder text : String) :
    Prop :=
  match line.destination with
  | .screen => after = files
  | .file out => Stores files after (resolve folder out) text
  | .input => Stores files after (resolve folder line.input) text

/-- A request reads and writes the files of its command line. -/
theorem request_of_spells {words : List String} (spelled : line.Spells words)
    (asked : line.request? = some request) :
    request.input = line.input ∧ request.destination = line.destination := by
  obtain ⟨command, input, operands, options, destination⟩ := line
  obtain ⟨⟨rest, _, sorted⟩, _, _, goes⟩ := spelled
  unfold CommandLine.request? at asked
  split at asked
  case h_4 command operands =>
    dsimp only at command operands sorted goes
    subst command
    cases asked
    cases options_of_no_forms sorted
    cases goes with
    | screen => exact ⟨rfl, rfl⟩
    | file named => cases named
    | input asked => cases asked
  case h_7 => cases asked
  all_goals
    cases asked
    exact ⟨rfl, rfl⟩

theorem reaches_iff_resultPath? {words : List String} (spelled : line.Spells words)
    (asked : line.request? = some request) :
    line.Reaches files after folder text ↔
      match resultPath? folder request with
      | none => after = files
      | some path => Stores files after path text := by
  obtain ⟨input, destination⟩ := request_of_spells spelled asked
  unfold CommandLine.Reaches resultPath?
  rw [input, destination]
  cases line.destination <;> rfl

/-- A delivery changes no file when it fails, and else what it was told to change. -/
theorem deliver_cases {words : List String} (spelled : line.Spells words)
    (asked : line.request? = some request) (files : FileTree) (folder detail : String)
    (config : Config) (done : Report) :
    let outcome := deliver files detail (done.delivery folder config request)
    (outcome.exit ≠ 0 ∧ ∀ location, outcome.files.fileAt location = files.fileAt location) ∨
      (outcome.exit = 0 ∧
        line.Reaches files outcome.files folder (done.result.print config.layout)) := by
  intro outcome
  rw [reaches_iff_resultPath? spelled asked]
  cases asked : resultPath? folder request with
  | none =>
      have shown : outcome.exit = 0 ∧ outcome.files = files := by
        simp only [outcome, deliver, Report.delivery, asked, and_self]
      exact Or.inr shown
  | some path =>
      cases wrote : writeResult files path (done.result.print config.layout) with
      | mk answer after =>
          cases answer with
          | ok _ =>
              have written : outcome.exit = 0 ∧ outcome.files = after := by
                simp only [outcome, deliver, Report.delivery, asked, wrote, and_self]
              obtain ⟨ended, left⟩ := written
              rw [ended, left]
              exact Or.inr ⟨rfl, stores_of_writeResult wrote⟩
          | error reason =>
              have refused : outcome.exit = 1 ∧ outcome.files = after := by
                simp only [outcome, deliver, Report.delivery, asked, wrote, and_self]
              obtain ⟨ended, left⟩ := refused
              rw [ended, left]
              exact Or.inl ⟨by decide, fileAt_of_writeResult_error wrote⟩

/-- A command that fails changes no file. One that ends well shows its result or changes the file
that its words name, and no other; as far as the numbers of the result are integers and it is nested
no deeper than a reader takes, that file is read as the result. Panels and documents are always so.
An edit at a path that does not resolve has the document itself for its result. What is assumed of
the disk is that a file which could be opened for writing takes the whole text. -/
theorem only_the_target_of_a_success_changes {words : List String} {request : Request}
    (accepted : Request.ofWords? words = some request) (files : FileTree) (folder detail : String)
    (clock : ClockSource) :
    ∃ line : CommandLine, line.Spells words ∧ line.request? = some request ∧
      let outcome := run files folder detail clock request
      (outcome.exit ≠ 0 → ∀ location, outcome.files.fileAt location = files.fileAt location) ∧
      (outcome.exit = 0 → ∃ config text result,
        configOf (configRead files folder) = .ok config ∧
        files.readText (resolve folder line.input) = .ok text ∧
        Makes config clock text request result ∧
        line.Reaches files outcome.files folder (result.print config.layout) ∧
        (result.Plain Reader.maxDepth →
          Json.parse? (result.print config.layout) = some result.canonical) ∧
        (request.edit? = none → line.destination ≠ .screen → result.Plain Reader.maxDepth) ∧
        ∀ edit, request.edit? = some edit →
          result.canonical = result ∧ ∃ document, Json.parse? text = some document ∧
            (¬ edit.Resolves document → result = document)) := by
  obtain ⟨line, spelled, asked⟩ := CommandLine.ofWords?_eq_some_iff.mp accepted
  obtain ⟨input, destination⟩ := request_of_spells spelled asked
  refine ⟨line, spelled, asked, ?_⟩
  intro outcome
  rcases run_cases files folder detail clock request with ⟨reason, ran⟩ |
    ⟨config, done, configured, reported, ran⟩
  · have refused : outcome.exit = 1 ∧ outcome.files = files :=
      ⟨congrArg Outcome.exit ran, congrArg Outcome.files ran⟩
    rw [refused.1, refused.2]
    exact ⟨fun _ _ => rfl, fun ended => absurd ended (by decide)⟩
  · obtain ⟨text, readable, makes⟩ := makes_of_report reported
    rw [input] at readable
    rcases deliver_cases spelled asked files folder detail config done with
      ⟨failed, unchanged⟩ | ⟨ended, reaches⟩
    · rw [← ran] at failed unchanged
      exact ⟨fun _ => unchanged, fun ended => absurd ended failed⟩
    · rw [← ran] at ended reaches
      refine ⟨fun failed => absurd ended failed, fun _ => ?_⟩
      have readBack (plain : done.result.Plain Reader.maxDepth) :=
        Json.parse?_print_of_plain plain (Nat.le_refl _) config.layout
      exact ⟨config, text, done.result, configured, readable, makes, reaches, readBack,
        fun unedited written => makes.plain unedited (destination ▸ written),
        fun edit asked => makes.canonical asked⟩

/-- A value that is set goes to a file in a new folder, and what is not there is not shown. -/
theorem set_value_goes_to_new_folder :
    let files := workingFolder "{}"
    let clock : ClockSource := { readings := fun _ => 0, process := 0 }
    let document := Json.obj [("a", argumentValue "1")]
    let setting := ["set", "-o=new/out.json", "doc.json", "a", "1"]
    let getting := ["get", "--", "doc.json", "a"]
    ∃ set get, Request.ofWords? setting = some set ∧ Request.ofWords? getting = some get ∧
      let written := run files "/work" "" clock set
      let missed := run files "/work" "" clock get
      written.exit = 0 ∧
        (∃ text, Stores files written.files "/work/new/out.json" text ∧
          Json.parse? text = some document) ∧
        missed.exit = 1 ∧ ∀ location, missed.files.fileAt location = files.fileAt location := by
  intro files clock document setting getting
  have setAccepted : Request.ofWords? setting =
      some (.set "doc.json" "a" "1" (.file "new/out.json")) := by decide
  have getAccepted : Request.ofWords? getting = some (.get "doc.json" "a") := by decide
  refine ⟨_, _, setAccepted, getAccepted, ?_⟩
  intro written missed
  have ended : written.exit = 0 := rfl
  have failed : missed.exit = 1 := rfl
  obtain ⟨line, spelled, asked, _, success⟩ :=
    only_the_target_of_a_success_changes setAccepted files "/work" "" clock
  obtain ⟨_, _, _, unchanged, _⟩ :=
    only_the_target_of_a_success_changes getAccepted files "/work" "" clock
  obtain ⟨config, text, result, _, read, makes, reaches, parses, _, edits⟩ := success ended
  obtain ⟨input, destination⟩ := request_of_spells spelled asked
  rw [← input] at read
  rw [CommandLine.Reaches, ← destination] at reaches
  cases (readText_workingFolder "{}").symm.trans read
  have changed : result = document := by
    cases makes with
    | edited asked parsed =>
        cases asked
        cases parsed
        rfl
  subst changed
  have plain : document.Plain Reader.maxDepth := ⟨⟨trivial, trivial⟩, by decide +kernel⟩
  have same := (edits _ rfl).1
  have parsed := parses plain
  rw [same] at parsed
  exact ⟨ended, ⟨_, reaches, parsed⟩, failed, unchanged (by rw [failed]; decide)⟩

end Command

end RichMessage
