set_option autoImplicit false

/- A command line names one of six commands, gives its operands in order and its options anywhere
among them. A word that starts with a dash is an option; a lone dash is an operand, and so is
everything behind a double dash. An option takes its value from the same word, behind an equals sign
or directly behind its letter, or else from the next word, which must not look like an option. No
option may be repeated. -/
namespace RichMessage.Command

inductive Destination where
  | screen
  | file (path : String)
  /-- The file that has been read. -/
  | input
  deriving Repr, DecidableEq

inductive Request where
  /-- Panels from a document; with a seed their identifiers are numbered behind it. -/
  | decompile (input : String) (seed : Option String) (destination : Destination)
  /-- A document from panels. -/
  | compile (input : String) (destination : Destination)
  /-- A document in normal form, or the panels between. -/
  | roundtrip (input : String) (panels : Bool) (destination : Destination)
  /-- The value at a path. -/
  | get (input path : String)
  /-- A document with another value at a path. -/
  | set (input path value : String) (destination : Destination)
  /-- A document without what stands at a path. -/
  | remove (input path : String) (destination : Destination)
  deriving Repr, DecidableEq

structure OptionForm where
  name : String
  letter : Option Char := none
  takesValue : Bool := false
  deriving Repr, DecidableEq

/-- The operands in order, and the options with their values. -/
structure Arguments where
  operands : List String := []
  options : List (String × String) := []
  deriving Repr, DecidableEq

namespace Arguments

def withOperand (arguments : Arguments) (operand : String) : Arguments :=
  { arguments with operands := operand :: arguments.operands }

def withOptions (arguments : Arguments) (options : List (String × String)) : Arguments :=
  { arguments with options := options ++ arguments.options }

def option? (arguments : Arguments) (name : String) : Option String :=
  arguments.options.lookup name

def has (arguments : Arguments) (name : String) : Bool :=
  (arguments.option? name).isSome

end Arguments

inductive Word where
  | operand
  /-- Options that have all that they need. -/
  | options (found : List (String × String))
  /-- Options of which the last one takes its value from the next word. -/
  | awaiting (found : List (String × String)) (name : String)
  | refused
  deriving Repr, DecidableEq

namespace Word

/-- An option by its name, perhaps with a value behind an equals sign. -/
def ofName (forms : List OptionForm) (text : List Char) : Word :=
  let name := String.ofList (text.takeWhile (· != '='))
  match forms.find? fun form => form.name == name, text.dropWhile (· != '=') with
  | none, _ => .refused
  | some form, _ :: value =>
    if form.takesValue then .options [(form.name, String.ofList value)] else .refused
  | some form, [] => if form.takesValue then .awaiting [] form.name else .options [(form.name, "")]

/-- Options by their letters. The first one that takes a value takes what is left of the word. -/
def ofLetters (forms : List OptionForm) : List Char → List (String × String) → Word
  | [], found => .options found
  | letter :: rest, found =>
    match forms.find? fun form => form.letter == some letter with
    | none => .refused
    | some form =>
      if form.takesValue then
        match rest with
        | [] => .awaiting found form.name
        | '=' :: value => .options (found ++ [(form.name, String.ofList value)])
        | value => .options (found ++ [(form.name, String.ofList value)])
      else ofLetters forms rest (found ++ [(form.name, "")])

/-- What a word in front of a double dash means. -/
def ofChars (forms : List OptionForm) : List Char → Word
  | '-' :: '-' :: name => ofName forms name
  | ['-'] => .operand
  | '-' :: letters => ofLetters forms letters []
  | _ => .operand

/-- Whether a word may be the value of the option before it. -/
def isValue : List Char → Bool
  | ['-'] => true
  | '-' :: _ => false
  | _ => true

end Word

/-- Sorts the words of a command line into operands and options. -/
def Arguments.ofWords? (forms : List OptionForm) : List String → Option Arguments
  | [] => some {}
  | word :: rest =>
    if word = "--" then some { operands := rest }
    else
      match Word.ofChars forms word.toList, rest with
      | .operand, rest => (Arguments.ofWords? forms rest).map fun found => found.withOperand word
      | .options given, rest =>
        (Arguments.ofWords? forms rest).map fun found => found.withOptions given
      | .awaiting given name, value :: rest =>
        if Word.isValue value.toList then
          (Arguments.ofWords? forms rest).map fun found =>
            found.withOptions (given ++ [(name, value)])
        else none
      | .awaiting _ _, [] => none
      | .refused, _ => none

def outForm : OptionForm := { name := "out", letter := some 'o', takesValue := true }

def inPlaceForm : OptionForm := { name := "in-place", letter := some 'i' }

def seedForm : OptionForm := { name := "seed", takesValue := true }

def panelsForm : OptionForm := { name := "panels" }

/-- The operands and options of a command, none of the options given twice. -/
def arguments? (forms : List OptionForm) (words : List String) : Option Arguments :=
  (Arguments.ofWords? forms words).bind fun found =>
    if (found.options.map Prod.fst).Nodup then some found else none

/-- The destination that the options ask for. A file has to have a name, and cannot be asked for
together with the input. -/
def destination? (arguments : Arguments) : Option Destination :=
  match arguments.option? "out", arguments.has "in-place" with
  | none, false => some .screen
  | none, true => some .input
  | some path, false => if path = "" then none else some (.file path)
  | some _, true => none

/-- The file that an operand names; it has to have a name. -/
def inputFile? (operand : String) : Option String :=
  if operand = "" then none else some operand

/-- The request that a command makes of its operands and options; `none` when it is not understood.
-/
def Request.ofCommand? (command : String) (words : List String) : Option Request :=
  match command with
  | "decompile" => do
    let found ← arguments? [outForm, seedForm] words
    let [operand] := found.operands | none
    return .decompile (← inputFile? operand) (found.option? "seed") (← destination? found)
  | "compile" => do
    let found ← arguments? [outForm] words
    let [operand] := found.operands | none
    return .compile (← inputFile? operand) (← destination? found)
  | "roundtrip" => do
    let found ← arguments? [outForm, panelsForm] words
    let [operand] := found.operands | none
    return .roundtrip (← inputFile? operand) (found.has "panels") (← destination? found)
  | "get" => do
    let found ← arguments? [] words
    let [operand, path] := found.operands | none
    return .get (← inputFile? operand) path
  | "set" => do
    let found ← arguments? [outForm, inPlaceForm] words
    let [operand, path, value] := found.operands | none
    return .set (← inputFile? operand) path value (← destination? found)
  | "remove" => do
    let found ← arguments? [outForm, inPlaceForm] words
    let [operand, path] := found.operands | none
    return .remove (← inputFile? operand) path (← destination? found)
  | _ => none

/-- The request of a command line, whose first word names the command. -/
def Request.ofWords? : List String → Option Request
  | [] => none
  | command :: words => Request.ofCommand? command words

namespace Request

def input : Request → String
  | .decompile input _ _ => input
  | .compile input _ => input
  | .roundtrip input _ _ => input
  | .get input _ => input
  | .set input _ _ _ => input
  | .remove input _ _ => input

def destination : Request → Destination
  | .decompile _ _ destination => destination
  | .compile _ destination => destination
  | .roundtrip _ _ destination => destination
  | .get _ _ => .screen
  | .set _ _ _ destination => destination
  | .remove _ _ destination => destination

end Request

end RichMessage.Command
