import RichMessage.Command.Run
import RichMessage.Proofs.Files.Folders

set_option autoImplicit false

namespace RichMessage.Command

variable {files written touched : FileTree} {folder input out text : String} {config : Config}
  {request : Request} {done : Report}

def shown (config : Config) (files : FileTree) (value : Json) : Outcome :=
  { exit := 0, stdout := lines [value.print config.layout], files }

def failed (detail : String) (files : FileTree) (reason : CommandError) : Outcome :=
  { exit := 1, stderr := failureText detail reason, files }

theorem lines_cons (text : String) (rest : List String) :
    lines (text :: rest) = text ++ "\n" ++ lines rest :=
  String.join_cons

theorem lines_ne_empty (text : String) (rest : List String) : lines (text :: rest) ≠ "" := by
  intro none
  have size := congrArg String.length none
  have ending : "\n".length = 1 := rfl
  rw [lines_cons, String.length_append, String.length_append, ending, String.length_empty] at size
  omega

/-- What a command delivers once it has its report. -/
def Report.delivery (done : Report) (folder : String) (config : Config) (request : Request) :
    Delivery :=
  ⟨done.notices, done.result.print config.layout, resultPath? folder request⟩

theorem run_of_report (configured : configOf (configRead files folder) = .ok config)
    (clock : ClockSource)
    (reported : report request config (resolve folder request.input)
      (files.readText (resolve folder request.input)) clock = .ok done) (detail : String) :
    run files folder detail clock request =
      deliver files detail (done.delivery folder config request) := by
  unfold run prepare
  simp only [configured, bind, Except.bind, reported]
  rfl

theorem run_of_refusal (configured : configOf (configRead files folder) = .ok config)
    (clock : ClockSource) {reason : CommandError}
    (refused : report request config (resolve folder request.input)
      (files.readText (resolve folder request.input)) clock = .error reason) (detail : String) :
    run files folder detail clock request = failed detail files reason := by
  unfold run prepare
  simp only [configured, bind, Except.bind, refused]
  rfl

/-- Without its configuration a command does nothing. -/
theorem run_of_no_config {reason : CommandError}
    (unread : configOf (configRead files folder) = .error reason) (detail : String)
    (clock : ClockSource) (request : Request) :
    run files folder detail clock request = failed detail files reason := by
  unfold run prepare
  rw [unread]
  rfl

/-- A command has failed before it touches a file, or it has made a report and delivers it. -/
theorem run_cases (files : FileTree) (folder detail : String) (clock : ClockSource)
    (request : Request) :
    (∃ reason, run files folder detail clock request = failed detail files reason) ∨
      ∃ config done, configOf (configRead files folder) = .ok config ∧
        report request config (resolve folder request.input)
          (files.readText (resolve folder request.input)) clock = .ok done ∧
        run files folder detail clock request =
          deliver files detail (done.delivery folder config request) := by
  cases configured : configOf (configRead files folder) with
  | error reason => exact Or.inl ⟨reason, run_of_no_config configured detail clock request⟩
  | ok config =>
      cases reported : report request config (resolve folder request.input)
          (files.readText (resolve folder request.input)) clock with
      | error reason => exact Or.inl ⟨reason, run_of_refusal configured clock reported detail⟩
      | ok done =>
          exact Or.inr ⟨config, done, rfl, reported, run_of_report configured clock reported detail⟩

/-- A command that ends well has read its configuration and made its report. -/
theorem report_of_exit_zero {detail : String} {clock : ClockSource}
    (ended : (run files folder detail clock request).exit = 0) :
    ∃ config done, configOf (configRead files folder) = .ok config ∧
      report request config (resolve folder request.input)
        (files.readText (resolve folder request.input)) clock = .ok done := by
  rcases run_cases files folder detail clock request with ⟨reason, ran⟩ | made
  · rw [ran] at ended
    cases ended
  · obtain ⟨config, done, configured, reported, _⟩ := made
    exact ⟨config, done, configured, reported⟩

theorem writeResult_eq_ok_iff {path : String} :
    writeResult files path text = (.ok (), written) ↔
      ∃ made, files.makeFoldersFor path = (.ok (), made) ∧
        made.writeText path text = .ok written := by
  unfold writeResult
  cases files.makeFoldersFor path with
  | mk answer made =>
      cases answer with
      | error reason => simp
      | ok _ =>
          dsimp only
          cases kept : made.writeText path text <;> simp [kept]

/-- A result is put into a tree that has all the files and folders there were. Any other result
would have been put into the same place. -/
theorem place_of_writeResult {path : String}
    (kept : writeResult files path text = (.ok (), written)) :
    ∃ made front last, files.Extends made ∧ made.Ends path front last ∧
      ∀ other, writeResult files path other =
        (.ok (), made.put (front ++ [last]) (.file other.toUTF8)) := by
  obtain ⟨made, folders, stored⟩ := writeResult_eq_ok_iff.mp kept
  obtain ⟨front, last, ends, _⟩ := FileTree.ends_of_writeText stored
  have grown := (FileTree.gainsFolders_makeFoldersFor files path).extends
  rw [folders] at grown
  refine ⟨made, front, last, grown, ends, fun other => ?_⟩
  exact writeResult_eq_ok_iff.mpr ⟨made, folders, FileTree.writeText_of_ends ends other⟩

theorem run_of_writeResult {path : String}
    (configured : configOf (configRead files folder) = .ok config) (clock : ClockSource)
    (reported : report request config (resolve folder request.input)
      (files.readText (resolve folder request.input)) clock = .ok done)
    (asked : resultPath? folder request = some path)
    (kept : writeResult files path (done.result.print config.layout) = (.ok (), written))
    (detail : String) :
    run files folder detail clock request =
      { exit := 0, stderr := lines (done.notices ++ [wroteNotice path]), files := written } := by
  rw [run_of_report configured clock reported]
  simp only [deliver, Report.delivery, asked, kept]

theorem readText_of_writeResult {path : String}
    (kept : writeResult files path text = (.ok (), written)) :
    written.readText path = .ok text := by
  obtain ⟨made, _, stored⟩ := writeResult_eq_ok_iff.mp kept
  exact FileTree.readText_of_writeText stored

theorem configRead_of_pathExists
    (same : written.pathExists (resolve folder Config.fileName) =
      files.pathExists (resolve folder Config.fileName))
    (unchanged : files.pathExists (resolve folder Config.fileName) = true →
      written.readText (resolve folder Config.fileName) =
        files.readText (resolve folder Config.fileName)) :
    configRead written folder = configRead files folder := by
  unfold configRead
  simp only
  rw [same]
  split
  · rename_i there
    rw [unchanged there]
  · rfl

theorem configRead_of_writeText {old : String}
    (readable : files.readText (resolve folder input) = .ok old)
    (done : files.writeText (resolve folder input) text = .ok written)
    (elsewhere : files.locate (resolve folder Config.fileName) ≠
      files.locate (resolve folder input)) :
    configRead written folder = configRead files folder := by
  obtain ⟨same, unchanged⟩ := FileTree.read_elsewhere_of_writeText readable done elsewhere
  exact configRead_of_pathExists same unchanged

/-- A path to which results can be written and that has nothing to do with the configuration;
`touched` is the tree after an empty text has been written to it. -/
structure Output (files touched : FileTree) (folder out : String) : Prop where
  writable : writeResult files (resolve folder out) "" = (.ok (), touched)
  /-- It does not lead to the configuration. -/
  elsewhere : touched.locate (resolve folder Config.fileName) ≠
    touched.locate (resolve folder out)
  /-- Nothing comes to be in the place of a configuration that is not there. -/
  spared : touched.pathExists (resolve folder Config.fileName) = true →
    files.pathExists (resolve folder Config.fileName) = true

theorem Output.kept (output : Output files touched folder out) (text : String) :
    ∃ written, writeResult files (resolve folder out) text = (.ok (), written) := by
  obtain ⟨_, _, _, _, _, puts⟩ := place_of_writeResult output.writable
  exact ⟨_, puts text⟩

theorem Output.configRead_eq (output : Output files touched folder out)
    (kept : writeResult files (resolve folder out) text = (.ok (), written)) :
    configRead written folder = configRead files folder := by
  obtain ⟨made, front, last, grown, ends, puts⟩ := place_of_writeResult output.writable
  cases (puts "").symm.trans output.writable
  cases (puts text).symm.trans kept
  have seen : (made.put (front ++ [last]) (.file "".toUTF8)).view (front ++ [last]) =
      some (some "".toUTF8) := by
    rw [FileTree.view_put_file ends.free, if_pos rfl]
  have located := ends.locate (FileTree.keeps_put_file ends.free "".toUTF8) seen
  have elsewhere := output.elsewhere
  rw [located] at elsewhere
  obtain ⟨same, unchanged⟩ := FileTree.read_elsewhere_of_put_file grown ends "".toUTF8
    text.toUTF8 elsewhere output.spared
  exact configRead_of_pathExists same unchanged

/-- A working folder that holds one document and no configuration. -/
def workingFolder (text : String) : FileTree :=
  .folder [("work", .folder [("doc.json", .file text.toUTF8)])]

theorem readText_workingFolder (text : String) :
    (workingFolder text).readText (resolve "/work" "doc.json") = .ok text :=
  FileTree.readText_eq_ok_iff.mpr ⟨["work", "doc.json"], rfl, rfl⟩

theorem elsewhere_workingFolder (text : String) :
    (workingFolder text).locate (resolve "/work" Config.fileName) ≠
      (workingFolder text).locate (resolve "/work" "doc.json") := by
  have absent : (workingFolder text).locate (resolve "/work" Config.fileName) =
    .error .notFound := rfl
  have found : (workingFolder text).locate (resolve "/work" "doc.json") =
    .ok ["work", "doc.json"] := rfl
  rw [absent, found]
  exact nofun

end RichMessage.Command
