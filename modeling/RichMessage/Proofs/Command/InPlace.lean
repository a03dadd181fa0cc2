import RichMessage.Proofs.Command.Running
import RichMessage.Proofs.Json.Nesting
import RichMessage.Proofs.Json.Plain
import RichMessage.Proofs.Json.Reading
import RichMessage.Proofs.Path.Lens
import RichMessage.Proofs.Path.Nesting

set_option autoImplicit false

namespace RichMessage.Command

variable {files written : FileTree} {folder input place value text : String} {config : Config}
  {document next : Json}

theorem run_get (readable : files.readText (resolve folder input) = .ok text)
    (configured : configOf (configRead files folder) = .ok config) (detail : String)
    (clock : ClockSource) (place : String) :
    run files folder detail clock (.get input place) =
      match Json.parse? text with
      | none => failed detail files (.badInput (resolve folder input))
      | some document =>
        match document.at? (Path.parse place) with
        | none => failed detail files (.noValue place)
        | some value => shown config files value := by
  unfold run prepare
  simp only [Request.input, readable, configured, bind, Except.bind, report, inputJson, inputText]
  cases Json.parse? text with
  | none => rfl
  | some document =>
      simp only [get]
      cases document.at? (Path.parse place) <;> rfl

/-- A document that can be read is written over itself. -/
theorem run_set_in_place (readable : files.readText (resolve folder input) = .ok text)
    (parsed : Json.parse? text = some document)
    (configured : configOf (configRead files folder) = .ok config) (detail place value : String)
    (clock : ClockSource) :
    let done := edited document (.set (Path.parse place) (argumentValue value)) "Set" place
    ∃ written,
      files.writeText (resolve folder input) (done.result.print config.layout) = .ok written ∧
      run files folder detail clock (.set input place value .input) =
        { exit := 0
          stderr := lines (done.notices ++ [wroteNotice (resolve folder input)])
          files := written } := by
  intro done
  have made := FileTree.makeFoldersFor_of_readText readable
  obtain ⟨written, kept⟩ :=
    FileTree.writeText_of_readText readable (done.result.print config.layout)
  have reported : report (.set input place value .input) config (resolve folder input)
      (files.readText (resolve folder input)) clock = .ok done := by
    simp only [report, inputJson, inputText, readable, parsed, bind, Except.bind, pure, Except.pure,
      done]
  have stored := writeResult_eq_ok_iff.mpr ⟨files, made, kept⟩
  exact ⟨written, kept, run_of_writeResult configured clock reported rfl stored detail⟩

/-- An argument is the value that it spells, and its own text when it spells none. -/
theorem argumentValue_eq_iff {text : String} {value : Json} :
    argumentValue text = value ↔
      Json.parse? text = some value ∨ Json.parse? text = none ∧ value = .str text := by
  rw [argumentValue]
  cases Json.parse? text with
  | none => simp [eq_comm]
  | some found => simp

/-- Every value of integers that a reader can take is the meaning of an argument. -/
theorem argumentValue_print {value : Json} (plain : value.Plain Reader.maxDepth)
    (layout : Json.Layout) : argumentValue (value.print layout) = value.canonical :=
  argumentValue_eq_iff.mpr (.inl (Json.parse?_print_of_plain plain (Nat.le_refl _) layout))

theorem argumentValue_ordered (text : String) : (argumentValue text).Ordered := by
  obtain parsed | ⟨_, same⟩ := argumentValue_eq_iff.mp (Eq.refl (argumentValue text))
  · exact Json.ordered_of_parse? parsed
  · rw [same]
    trivial

theorem set?_of_effect? {path : Path} {given : Json}
    (resolves : (Edit.set path given).effect? document = some next) :
    document.set? path given = some next ∧ document.setAt path given = next :=
  Json.set?_of_result? (Edit.result?_of_effect? resolves)

/-- The first character tells a notice of success from any other. -/
theorem effect?_of_told {edit : Edit} {verb : String} {rest : List String}
    (told : lines ((edited document edit verb place).notices ++ rest) =
      lines (succeeded (verb ++ " `" ++ place ++ "`") :: rest)) :
    ∃ next, edit.effect? document = some next := by
  cases resolves : edit.effect? document with
  | some next => exact ⟨next, rfl⟩
  | none =>
      rw [edited, resolves] at told
      change lines (warned _ :: rest) = lines (succeeded _ :: rest) at told
      rw [lines_cons, lines_cons] at told
      have first := congrArg (fun text => text.toList.head?) told
      simp [warned, succeeded] at first

/-- After an edit that resolves, every command reads the edited document, unless it is nested too
deep for any of them. -/
theorem get_after_set_in_place (readable : files.readText (resolve folder input) = .ok text)
    (parsed : Json.parse? text = some document)
    (configured : configOf (configRead files folder) = .ok config)
    (elsewhere : files.locate (resolve folder Config.fileName) ≠
      files.locate (resolve folder input))
    (integral : document.Integral) (given : (argumentValue value).Integral)
    (resolves : (Edit.set (Path.parse place) (argumentValue value)).effect? document = some next)
    (detail : String) (clock : ClockSource) :
    ∃ written,
      run files folder detail clock (.set input place value .input) =
        { exit := 0
          stderr := lines [succeeded ("Set `" ++ place ++ "`"), wroteNotice (resolve folder input)]
          files := written } ∧
      ∀ detail clock target, run written folder detail clock (.get input target) =
        if next.depth ≤ Reader.maxDepth then
          match next.at? (Path.parse target) with
          | none => failed detail written (.noValue target)
          | some found => shown config written found
        else failed detail written (.badInput (resolve folder input)) := by
  obtain ⟨stepped, _⟩ := set?_of_effect? resolves
  have ordered : next.Ordered := Json.inherited_ordered.of_set? stepped
    (Json.ordered_of_parse? parsed) (argumentValue_ordered value)
  have integers : next.Integral := Json.inherited_integral.of_set? stepped integral given
  obtain ⟨written, kept, ran⟩ :=
    run_set_in_place readable parsed configured detail place value clock
  have same : edited document (.set (Path.parse place) (argumentValue value)) "Set" place =
      ⟨[succeeded ("Set `" ++ place ++ "`")], next⟩ := by
    rw [edited, resolves]
    rfl
  rw [same] at kept ran
  refine ⟨written, ran, fun detail clock target => ?_⟩
  have unchanged : configOf (configRead written folder) = .ok config := by
    rw [configRead_of_writeText readable kept elsewhere]
    exact configured
  rw [run_get (FileTree.readText_of_writeText kept) unchanged detail clock target,
    Json.parse?_print config.layout integers, Json.canonical_of_ordered next ordered]
  by_cases shallow : next.depth ≤ Reader.maxDepth
  · rw [if_pos shallow, if_pos shallow]
  · rw [if_neg shallow, if_neg shallow]

/-- A write that is reported is nested no deeper than a reader takes exactly when the written value
is not, where it stands. -/
theorem depth_le_iff_of_set? {given : Json} {path : Path}
    (parsed : Json.parse? text = some document) (written : document.set? path given = some next) :
    next.depth ≤ Reader.maxDepth ↔ path.length + given.depth ≤ Reader.maxDepth := by
  -- the document has been read itself, so that only the written value can be nested too deep
  have before := Json.depth_le_of_parse? parsed
  have above := Json.depth_set?_le written
  have under := Json.length_add_depth_le (Json.at?_of_set? written)
  omega

/-- After a value has been set in place and the user has been told so, the value is read back at its
path and the edited document at the root, when the steps of the path and the depth of the value
together are not more than a reader takes. Otherwise nothing reads the file again. -/
theorem set_in_place_reads_back (readable : files.readText (resolve folder input) = .ok text)
    (parsed : Json.parse? text = some document)
    (elsewhere : files.locate (resolve folder Config.fileName) ≠
      files.locate (resolve folder input))
    (integral : document.Integral) (given : (argumentValue value).Integral) (detail : String)
    (clock : ClockSource)
    (ended : (run files folder detail clock (.set input place value .input)).exit = 0)
    (told : (run files folder detail clock (.set input place value .input)).stderr =
      lines [succeeded ("Set `" ++ place ++ "`"), wroteNotice (resolve folder input)]) :
    let after := (run files folder detail clock (.set input place value .input)).files
    ∃ config, configOf (configRead files folder) = .ok config ∧ ∀ detail clock,
      if (Path.parse place).length + (argumentValue value).depth ≤ Reader.maxDepth then
        run after folder detail clock (.get input place) =
            shown config after (argumentValue value) ∧
          run after folder detail clock (.get input "") =
            shown config after (document.setAt (Path.parse place) (argumentValue value))
      else ∀ target, run after folder detail clock (.get input target) =
        failed detail after (.badInput (resolve folder input)) := by
  intro after
  cases configured : configOf (configRead files folder) with
  | error reason =>
      -- without its configuration a command does nothing
      unfold run prepare at ended
      rw [configured] at ended
      cases ended
  | ok config =>
      refine ⟨config, rfl, fun later now => ?_⟩
      obtain ⟨_, _, reported⟩ :=
        run_set_in_place readable parsed configured detail place value clock
      rw [reported] at told
      obtain ⟨next, resolves⟩ := effect?_of_told told
      obtain ⟨stepped, same⟩ := set?_of_effect? resolves
      obtain ⟨written, ran, reads⟩ := get_after_set_in_place readable parsed configured elsewhere
        integral given resolves detail clock
      have left : after = written := congrArg Outcome.files ran
      rw [left, same]
      have fits := depth_le_iff_of_set? parsed stepped
      split
      · rename_i short
        have shallow := fits.mpr short
        have here := Json.at?_of_set? stepped
        have whole : next.at? (Path.parse "") = some next := rfl
        constructor
        · rw [reads, if_pos shallow, here]
        · rw [reads, if_pos shallow, whole]
      · rename_i long
        intro target
        rw [reads, if_neg fun shallow => long (fits.mp shallow)]

theorem new_member_reads_back :
    let files := workingFolder "{}"
    let clock : ClockSource := { readings := fun _ => 0, process := 0 }
    let outcome := run files "/work" "" clock (.set "doc.json" "a" "1" .input)
    outcome.exit = 0 ∧
      outcome.stderr = lines [succeeded "Set `a`", wroteNotice "/work/doc.json"] ∧
      ∃ config, configOf (configRead files "/work") = .ok config ∧
        run outcome.files "/work" "" clock (.get "doc.json" "a") =
          shown config outcome.files (argumentValue "1") ∧
        run outcome.files "/work" "" clock (.get "doc.json" "") =
          shown config outcome.files (.obj [("a", argumentValue "1")]) := by
  intro files clock outcome
  have readable := readText_workingFolder "{}"
  have elsewhere := elsewhere_workingFolder "{}"
  have given : (argumentValue "1").Integral := trivial
  have resolves : (Edit.set (Path.parse "a") (argumentValue "1")).effect? (.obj []) =
      some (.obj [("a", argumentValue "1")]) := rfl
  obtain ⟨written, ran, _⟩ := get_after_set_in_place readable rfl rfl elsewhere trivial given
    resolves "" clock
  have ended : outcome.exit = 0 := congrArg Outcome.exit ran
  have told := congrArg Outcome.stderr ran
  obtain ⟨config, configured, reads⟩ := set_in_place_reads_back readable rfl elsewhere trivial
    given "" clock ended told
  obtain ⟨value, whole⟩ := reads "" clock
  exact ⟨ended, told, config, configured, value, whole⟩

/-- A path may be one step longer than a document that is read is nested. -/
theorem longest_path_is_not_read_back :
    let place := ".".intercalate (List.replicate 128 "a")
    let files := workingFolder "{}"
    let clock : ClockSource := { readings := fun _ => 0, process := 0 }
    let outcome := run files "/work" "" clock (.set "doc.json" place "1" .input)
    files.readText (resolve "/work" "doc.json") = .ok "{}" ∧
      Json.parse? "{}" = some (.obj []) ∧
      outcome.exit = 0 ∧
      outcome.stderr = lines [succeeded ("Set `" ++ place ++ "`"), wroteNotice "/work/doc.json"] ∧
      (run outcome.files "/work" "" clock (.get "doc.json" place)).exit = 1 ∧
      (run outcome.files "/work" "" clock (.get "doc.json" "")).exit = 1 := by
  intro place files clock outcome
  have readable := readText_workingFolder "{}"
  have parsed : Json.parse? "{}" = some (.obj []) := rfl
  have given : (argumentValue "1").Integral := trivial
  have path : Path.parse place = List.replicate 128 (.key "a") := by
    rw [Path.parse, String.toList_intercalate, if_neg (by decide +kernel)]
    decide +kernel
  have accepted : ((Edit.set (Path.parse place) (argumentValue "1")).effect? (.obj [])).isSome := by
    rw [path]
    decide +kernel
  obtain ⟨next, resolves⟩ := Option.isSome_iff_exists.mp accepted
  have deep : ¬ next.depth ≤ Reader.maxDepth := by
    rw [depth_le_iff_of_set? parsed (set?_of_effect? resolves).1, path]
    decide +kernel
  obtain ⟨written, ran, reads⟩ := get_after_set_in_place readable parsed rfl
    (elsewhere_workingFolder "{}") trivial given resolves "" clock
  have left : outcome.files = written := congrArg Outcome.files ran
  refine ⟨readable, parsed, congrArg Outcome.exit ran, congrArg Outcome.stderr ran, ?_, ?_⟩
  · rw [left, reads, if_neg deep]
    rfl
  · rw [left, reads, if_neg deep]
    rfl

end RichMessage.Command
