import RichMessage.Command.Arguments
import RichMessage.Command.Config
import RichMessage.Ident.Clock

set_option autoImplicit false

namespace RichMessage.Command

inductive CommandError where
  /-- The configuration cannot be read. -/
  | config (reason : FileError)
  /-- The configuration is not one. -/
  | badConfig
  | cannotRead (path : String) (reason : FileError)
  /-- The input does not hold what the command works on. -/
  | badInput (path : String)
  | session (reason : SessionError)
  | noBubble (path : String)
  | noValue (path : String)
  /-- The folder for the result cannot be made. -/
  | noFolder (reason : FileError)
  | cannotWrite (path : String) (reason : FileError)
  deriving Repr, DecidableEq

namespace CommandError

/-- What the user is told about a failure; `detail` says what is wrong with a JSON text. A failure
to load a session is followed by its cause. -/
def message (detail : String) : CommandError → String
  | .config reason => reason.message
  | .badConfig => detail
  | .cannotRead path reason => "Cannot read " ++ path ++ ": " ++ reason.message
  | .badInput path => "Invalid JSON in " ++ path ++ ": " ++ detail
  | .session (.file reason) => (SessionError.file reason).message detail ++ ": " ++ reason.message
  | .session reason => reason.message detail
  | .noBubble path => path ++ " contains no bubble to decompile"
  | .noValue path => "No value at `" ++ path ++ "`"
  | .noFolder reason => reason.message
  | .cannotWrite path reason => "Cannot write " ++ path ++ ": " ++ reason.message

end CommandError

/-- The result of a command and what the user is told before it is written. -/
structure Report where
  notices : List String
  result : Json

def succeeded (text : String) : String := "✓ " ++ text

def warned (text : String) : String := "⚠️ " ++ text

/-- A path seen from the working folder. -/
def resolve (folder path : String) : String :=
  if path.toList.head? = some '/' then path else folder ++ "/" ++ path

/-- The settings, from what the configuration file holds; usual ones without such a file. -/
def configOf : Option (Except FileError String) → Except CommandError Config
  | none => .ok {}
  | some (.error reason) => .error (.config reason)
  | some (.ok text) =>
    match (Written.parse? text).bind Config.read? with
    | some config => .ok config
    | none => .error .badConfig

def inputText (path : String) : Except FileError String → Except CommandError String
  | .ok text => .ok text
  | .error reason => .error (.cannotRead path reason)

def inputJson (path : String) (read : Except FileError String) : Except CommandError Json := do
  let text ← inputText path read
  match Json.parse? text with
  | some value => .ok value
  | none => .error (.badInput path)

def inputPanels (path : String) (read : Except FileError String) :
    Except CommandError (List Panel) := do
  let text ← inputText path read
  match (Written.parse? text).bind Panel.readList? with
  | some panels => .ok panels
  | none => .error (.badInput path)

def blockCount (panels : List Panel) : Nat :=
  panels.foldl (fun count panel => count + panel.blocks.length) 0

/-- The panels of a document, numbered behind the seed or else by the clock. -/
def panelsOf (document : Json) (seed : Option String) (clock : ClockSource) : List Panel :=
  match seed with
  | some seed => (Panel.ofNode document ({ seed } : Sequence)).1
  | none => (Panel.ofNode document clock).1

/-- The panels of a document; there have to be some. -/
def decompile (path : String) (document : Json) (seed : Option String) (clock : ClockSource) :
    Except CommandError Report :=
  match panelsOf document seed clock with
  | [] => .error (.noBubble path)
  | panels =>
    .ok
      { notices := [succeeded ("Decompiled " ++ panels.length.repr ++ " panels, " ++
          (blockCount panels).repr ++ " blocks")]
        result := Panel.listToJson panels }

def shapeName : Document → String
  | .bubble _ => "bubble"
  | .carousel _ => "carousel"

def compile (panels : List Panel) : Report :=
  let document := Document.ofPanels panels
  let warning := if panels.isEmpty then [warned " No panels - emitting an empty bubble"] else []
  { notices := warning ++ [succeeded ("Compiled " ++ panels.length.repr ++ " panels into a " ++
      shapeName document ++ " of " ++ document.bubbles.length.repr ++ " bubbles")]
    result := document.toJson }

def roundtrip (config : Config) (read : Except FileError String) (panels : Bool)
    (clock : ClockSource) : Except CommandError Report :=
  match (Session.create config.options clock).loadRead read with
  | .ok session =>
    .ok
      { notices := [succeeded ("Normalized " ++ session.panels.length.repr ++ " panels")]
        result :=
          if panels then Panel.listToJson session.panels else session.document.toJson }
  | .error reason => .error (.session reason)

def get (document : Json) (path : String) : Except CommandError Report :=
  match document.at? (Path.parse path) with
  | some value => .ok ⟨[], value⟩
  | none => .error (.noValue path)

/-- A value given on a command line: JSON if it is that, and otherwise the text itself. -/
def argumentValue (text : String) : Json :=
  (Json.parse? text).getD (.str text)

/-- A document after an edit; one that does not resolve is reported and leaves it unchanged. -/
def edited (document : Json) (edit : Edit) (verb path : String) : Report :=
  match edit.effect? document with
  | some next => ⟨[succeeded (verb ++ " `" ++ path ++ "`")], next⟩
  | none => ⟨[warned ("`" ++ path ++ "` does not resolve - document unchanged")], document⟩

/-- Works out the result of a request. `path` is the input seen from the working folder and `read`
is what has been read from it. -/
def report (request : Request) (config : Config) (path : String) (read : Except FileError String)
    (clock : ClockSource) : Except CommandError Report :=
  match request with
  | .decompile _ seed _ => do decompile path (← inputJson path read) seed clock
  | .compile _ _ => do return compile (← inputPanels path read)
  | .roundtrip _ panels _ => roundtrip config read panels clock
  | .get _ place => do get (← inputJson path read) place
  | .set _ place value _ => do
    let document ← inputJson path read
    return edited document (.set (Path.parse place) (argumentValue value)) "Set" place
  | .remove _ place _ => do
    let document ← inputJson path read
    return edited document (.remove (Path.parse place)) "Removed" place

structure Delivery where
  notices : List String
  text : String
  /-- The path of the file for the text; `none` for the screen. -/
  target : Option String

/-- The path for the result, seen from the working folder; `none` for the screen. -/
def resultPath? (folder : String) (request : Request) : Option String :=
  match request.destination with
  | .screen => none
  | .file path => some (resolve folder path)
  | .input => some (resolve folder request.input)

/-- Works out what a command shows or writes, from what has been read from the configuration file,
if there is one, and from the input. -/
def prepare (folder : String) (clock : ClockSource) (request : Request)
    (settings : Option (Except FileError String)) (input : Except FileError String) :
    Except CommandError Delivery := do
  let config ← configOf settings
  let done ← report request config (resolve folder request.input) input clock
  return ⟨done.notices, done.result.print config.layout, resultPath? folder request⟩

def lines (texts : List String) : String :=
  String.join (texts.map fun text => text ++ "\n")

/-- The text of a failure, set apart by empty lines. -/
def failureText (detail : String) (reason : CommandError) : String :=
  lines ["", "Error: " ++ reason.message detail, ""]

def wroteNotice (path : String) : String := "  " ++ succeeded ("Wrote " ++ path)

structure Outcome where
  exit : UInt32
  stdout : String := ""
  stderr : String := ""
  files : FileTree

/-- What a configuration file holds, if there is one. -/
def configRead (files : FileTree) (folder : String) : Option (Except FileError String) :=
  let path := resolve folder Config.fileName
  if files.pathExists path then some (files.readText path) else none

/-- Writes a text to a file after making the folders above it. Folders that have been made stay,
also when others cannot be made or the file cannot be written. -/
def writeResult (files : FileTree) (path text : String) : Except CommandError Unit × FileTree :=
  match files.makeFoldersFor path with
  | (.error reason, made) => (.error (.noFolder reason), made)
  | (.ok _, made) =>
    match made.writeText path text with
    | .error reason => (.error (.cannotWrite path reason), made)
    | .ok written => (.ok (), written)

def deliver (files : FileTree) (detail : String) (delivery : Delivery) : Outcome :=
  match delivery.target with
  | none => { exit := 0, stdout := lines [delivery.text], stderr := lines delivery.notices, files }
  | some path =>
    match writeResult files path delivery.text with
    | (.ok _, files) =>
      { exit := 0, stderr := lines (delivery.notices ++ [wroteNotice path]), files }
    | (.error reason, files) =>
      { exit := 1, stderr := lines delivery.notices ++ failureText detail reason, files }

def run (files : FileTree) (folder detail : String) (clock : ClockSource) (request : Request) :
    Outcome :=
  let input := files.readText (resolve folder request.input)
  match prepare folder clock request (configRead files folder) input with
  | .error reason => { exit := 1, stderr := failureText detail reason, files }
  | .ok delivery => deliver files detail delivery

end RichMessage.Command
