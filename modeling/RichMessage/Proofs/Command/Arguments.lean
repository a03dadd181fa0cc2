import Mathlib.Data.List.TakeWhile
import RichMessage.Command.Arguments
import RichMessage.Proofs.Json.Arrangement

set_option autoImplicit false

/- The grammar of command lines, said without the reader of words: which words are options, which
values they have and which words are operands. The reader accepts the words of this grammar and no
others, and finds in them what the grammar says. -/
namespace RichMessage.Command

/-- The options of a command: their names, their letters and whether they take a value. -/
def optionsOf : String → List OptionForm
  | "decompile" => [⟨"out", some 'o', true⟩, ⟨"seed", none, true⟩]
  | "compile" => [⟨"out", some 'o', true⟩]
  | "roundtrip" => [⟨"out", some 'o', true⟩, ⟨"panels", none, false⟩]
  | "set" | "remove" => [⟨"out", some 'o', true⟩, ⟨"in-place", some 'i', false⟩]
  | _ => []

def IsPlain (word : String) : Prop :=
  word = "-" ∨ word.toList.head? ≠ some '-'

section Grammar

variable (forms : List OptionForm)

/-- Letters behind a dash: the options that they give with their values, and the one that awaits its
value from the next word. -/
inductive Letters : List Char → List (String × String) → Option String → Prop
  | nothing : Letters [] [] none
  | flag {form : OptionForm} {letter : Char} {rest : List Char} {given : List (String × String)}
      {awaited : Option String} (known : form ∈ forms) (short : form.letter = some letter)
      (alone : form.takesValue = false) (behind : Letters rest given awaited) :
      Letters (letter :: rest) ((form.name, "") :: given) awaited
  | equals {form : OptionForm} {letter : Char} {value : List Char} (known : form ∈ forms)
      (short : form.letter = some letter) (takes : form.takesValue = true) :
      Letters (letter :: '=' :: value) [(form.name, String.ofList value)] none
  | attached {form : OptionForm} {letter first : Char} {value : List Char} (known : form ∈ forms)
      (short : form.letter = some letter) (takes : form.takesValue = true) (other : first ≠ '=') :
      Letters (letter :: first :: value) [(form.name, String.ofList (first :: value))] none
  | awaiting {form : OptionForm} {letter : Char} (known : form ∈ forms)
      (short : form.letter = some letter) (takes : form.takesValue = true) :
      Letters [letter] [] (some form.name)

/-- A word of options. -/
inductive OptionWord : List Char → List (String × String) → Option String → Prop
  | flag {form : OptionForm} (known : form ∈ forms) (alone : form.takesValue = false) :
      OptionWord ('-' :: '-' :: form.name.toList) [(form.name, "")] none
  | equals {form : OptionForm} {value : List Char} (known : form ∈ forms)
      (takes : form.takesValue = true) :
      OptionWord ('-' :: '-' :: (form.name.toList ++ '=' :: value))
        [(form.name, String.ofList value)] none
  | awaiting {form : OptionForm} (known : form ∈ forms) (takes : form.takesValue = true) :
      OptionWord ('-' :: '-' :: form.name.toList) [] (some form.name)
  | letters {first : Char} {rest : List Char} {given : List (String × String)}
      {awaited : Option String} (single : first ≠ '-')
      (shaped : Letters forms (first :: rest) given awaited) :
      OptionWord ('-' :: first :: rest) given awaited

/-- Words with the operands and the options that they are. -/
inductive Sorts : List String → List String → List (String × String) → Prop
  | nothing : Sorts [] [] []
  | operands (rest : List String) : Sorts ("--" :: rest) rest []
  | operand {word : String} {rest operands : List String} {options : List (String × String)}
      (plain : IsPlain word) (behind : Sorts rest operands options) :
      Sorts (word :: rest) (word :: operands) options
  | options {word : String} {rest operands : List String}
      {given options : List (String × String)} (option : OptionWord forms word.toList given none)
      (behind : Sorts rest operands options) : Sorts (word :: rest) operands (given ++ options)
  | awaiting {word value name : String} {rest operands : List String}
      {given options : List (String × String)}
      (option : OptionWord forms word.toList given (some name)) (plain : IsPlain value)
      (behind : Sorts rest operands options) :
      Sorts (word :: value :: rest) operands (given ++ (name, value) :: options)

/-- No word can be read as two options. -/
structure Distinct : Prop where
  names : ∀ form ∈ forms, ∀ other ∈ forms, form.name = other.name → form = other
  letters : ∀ form ∈ forms, ∀ other ∈ forms, form.letter.isSome → form.letter = other.letter →
    form = other
  nonempty : ∀ form ∈ forms, form.name ≠ ""
  closed : ∀ form ∈ forms, '=' ∉ form.name.toList

end Grammar

/-- Where the options send the result: to the file that `--out` names, with `--in-place` back to the
input, and to the screen without either. They do not go together. -/
inductive Goes (options : List (String × String)) : Destination → Prop
  | screen (unnamed : ∀ value, ("out", value) ∉ options)
      (apart : ∀ value, ("in-place", value) ∉ options) : Goes options .screen
  | file {path : String} (named : ("out", path) ∈ options) (present : path ≠ "")
      (apart : ∀ value, ("in-place", value) ∉ options) : Goes options (.file path)
  | input {value : String} (asked : ("in-place", value) ∈ options)
      (unnamed : ∀ value, ("out", value) ∉ options) : Goes options .input

structure CommandLine where
  command : String
  input : String
  operands : List String
  options : List (String × String)
  destination : Destination

namespace CommandLine

/-- The words of a command line. No option is given twice, and the first operand names a file. -/
structure Spells (line : CommandLine) (words : List String) : Prop where
  sorted : ∃ rest, words = line.command :: rest ∧
    Sorts (optionsOf line.command) rest (line.input :: line.operands) line.options
  once : (line.options.map Prod.fst).Nodup
  named : line.input ≠ ""
  goes : Goes line.options line.destination

def request? (line : CommandLine) : Option Request :=
  match line.command, line.operands with
  | "decompile", [] =>
    some (.decompile line.input (line.options.lookup "seed") line.destination)
  | "compile", [] => some (.compile line.input line.destination)
  | "roundtrip", [] =>
    some (.roundtrip line.input (line.options.lookup "panels").isSome line.destination)
  | "get", [path] => some (.get line.input path)
  | "set", [path, value] => some (.set line.input path value line.destination)
  | "remove", [path] => some (.remove line.input path line.destination)
  | _, _ => none

end CommandLine

/-- What a word of options means to the reader. -/
def Word.ofOptions (given : List (String × String)) : Option String → Word
  | none => .options given
  | some name => .awaiting given name

section Reader

variable {forms : List OptionForm}

theorem isPlain_iff {word : String} : IsPlain word ↔ Word.isValue word.toList = true := by
  have dash : word = "-" ↔ word.toList = ['-'] := String.toList_inj.symm
  rw [IsPlain, dash]
  cases word.toList with
  | nil => simp [Word.isValue]
  | cons first rest =>
      by_cases dashed : first = '-'
      · subst dashed
        cases rest <;> simp [Word.isValue]
      · simp [Word.isValue, dashed]

theorem find?_form_eq_some_iff {fits : OptionForm → Bool} {form : OptionForm}
    (alone : ∀ other ∈ forms, ∀ form ∈ forms, fits other = true → fits form = true →
      other = form) :
    forms.find? fits = some form ↔ form ∈ forms ∧ fits form = true := by
  constructor
  · intro found
    exact ⟨List.mem_of_find?_eq_some found, List.find?_some found⟩
  · rintro ⟨known, fitting⟩
    have present : (forms.find? fits).isSome := List.find?_isSome.mpr ⟨form, known, fitting⟩
    obtain ⟨other, found⟩ := Option.isSome_iff_exists.mp present
    rw [found, alone other (List.mem_of_find?_eq_some found) form known (List.find?_some found)
      fitting]

theorem find?_letter_eq_some_iff (distinct : Distinct forms) {letter : Char} {form : OptionForm} :
    (forms.find? fun form => form.letter == some letter) = some form ↔
      form ∈ forms ∧ form.letter = some letter := by
  rw [find?_form_eq_some_iff, beq_iff_eq]
  intro other known form known' short short'
  have short := beq_iff_eq.mp short
  exact distinct.letters other known form known' (by rw [short, Option.isSome_some])
    (short.trans (beq_iff_eq.mp short').symm)

theorem find?_name_eq_some_iff (distinct : Distinct forms) {name : String} {form : OptionForm} :
    (forms.find? fun form => form.name == name) = some form ↔
      form ∈ forms ∧ form.name = name := by
  rw [find?_form_eq_some_iff, beq_iff_eq]
  intro other known form known' named named'
  exact distinct.names other known form known'
    ((beq_iff_eq.mp named).trans (beq_iff_eq.mp named').symm)

theorem letters_of_ofLetters (distinct : Distinct forms) {letters : List Char}
    {found all : List (String × String)} {awaited : Option String}
    (read : Word.ofLetters forms letters found = .ofOptions all awaited) :
    ∃ given, all = found ++ given ∧ Letters forms letters given awaited := by
  induction letters generalizing found with
  | nil =>
      cases awaited <;> cases read
      exact ⟨[], (List.append_nil _).symm, .nothing⟩
  | cons letter rest ih =>
      rw [Word.ofLetters] at read
      split at read
      · cases awaited <;> cases read
      · rename_i form first
        obtain ⟨known, short⟩ := (find?_letter_eq_some_iff distinct).mp first
        split at read
        · rename_i takes
          split at read
          · cases awaited <;> cases read
            exact ⟨[], (List.append_nil _).symm, .awaiting known short takes⟩
          · cases awaited <;> cases read
            exact ⟨_, rfl, .equals known short takes⟩
          · rename_i present other
            cases awaited <;> cases read
            cases rest with
            | nil => exact absurd rfl present
            | cons first value =>
                exact ⟨_, rfl, .attached known short takes fun same => other value (by rw [same])⟩
        · rename_i alone
          obtain ⟨given, rfl, shaped⟩ := ih read
          have alone := Bool.eq_false_iff.mpr alone
          exact ⟨_, List.append_assoc _ _ _, .flag known short alone shaped⟩

theorem ofLetters_of_letters (distinct : Distinct forms) {letters : List Char}
    {given : List (String × String)} {awaited : Option String}
    (shaped : Letters forms letters given awaited) (found : List (String × String)) :
    Word.ofLetters forms letters found = .ofOptions (found ++ given) awaited := by
  have first {form : OptionForm} {letter : Char} (known : form ∈ forms)
      (short : form.letter = some letter) :=
    (find?_letter_eq_some_iff distinct).mpr ⟨known, short⟩
  induction shaped generalizing found with
  | nothing => rw [List.append_nil]; rfl
  | flag known short alone _ ih =>
      simp only [Word.ofLetters, first known short, alone, Bool.false_eq_true, if_false]
      rw [ih, List.append_assoc, List.singleton_append]
  | equals known short takes =>
      simp only [Word.ofLetters, first known short, takes, if_true]
      rfl
  | attached known short takes other =>
      simp only [Word.ofLetters, first known short, takes, if_true]
      split
      · rename_i nothing
        cases nothing
      · rename_i joined
        cases joined
        exact absurd rfl other
      · rfl
  | awaiting known short takes =>
      simp only [Word.ofLetters, first known short, takes, if_true]
      rw [List.append_nil]
      rfl

theorem passed_of_closed {name : List Char} (closed : '=' ∉ name) :
    ∀ c ∈ name, (c != '=') = true := by
  intro c member
  exact bne_iff_ne.mpr fun same => closed (same ▸ member)

theorem dropWhile_closed {name : List Char} (closed : '=' ∉ name) (rest : List Char) :
    (name ++ '=' :: rest).takeWhile (· != '=') = name ∧
      (name ++ '=' :: rest).dropWhile (· != '=') = '=' :: rest := by
  have all := passed_of_closed closed
  rw [List.takeWhile_append_of_pos all, List.dropWhile_append_of_pos all]
  simp

theorem optionWord_of_ofName (distinct : Distinct forms) {text : List Char}
    {given : List (String × String)} {awaited : Option String}
    (read : Word.ofName forms text = .ofOptions given awaited) :
    OptionWord forms ('-' :: '-' :: text) given awaited := by
  have whole : text.takeWhile (· != '=') ++ text.dropWhile (· != '=') = text :=
    List.takeWhile_append_dropWhile
  have named {form : OptionForm}
      (found : (forms.find? fun form => form.name == String.ofList (text.takeWhile (· != '='))) =
        some form) : form ∈ forms ∧ form.name.toList = text.takeWhile (· != '=') := by
    obtain ⟨known, name⟩ := (find?_name_eq_some_iff distinct).mp found
    exact ⟨known, by rw [name, String.toList_ofList]⟩
  rw [Word.ofName] at read
  split at read
  · cases awaited <;> cases read
  · rename_i form first value found rest
    obtain ⟨known, name⟩ := named found
    have equals : first = '=' := by
      have stops := List.head?_dropWhile_not (· != '=') text
      rw [rest] at stops
      simpa using stops
    split at read
    · rename_i takes
      cases awaited <;> cases read
      rw [← whole, rest, ← name, equals]
      exact .equals known takes
    · cases awaited <;> cases read
  · rename_i form found rest
    obtain ⟨known, name⟩ := named found
    rw [← whole, rest, ← name, List.append_nil]
    split at read
    · rename_i takes
      cases awaited <;> cases read
      exact .awaiting known takes
    · rename_i alone
      cases awaited <;> cases read
      exact .flag known (Bool.eq_false_iff.mpr alone)

theorem ofName_name (distinct : Distinct forms) {form : OptionForm} (known : form ∈ forms) :
    Word.ofName forms form.name.toList =
      if form.takesValue then .awaiting [] form.name else .options [(form.name, "")] := by
  have all := passed_of_closed (distinct.closed form known)
  have first := (find?_name_eq_some_iff distinct).mpr ⟨known, rfl⟩
  rw [Word.ofName, List.takeWhile_eq_self_iff.mpr all, List.dropWhile_eq_nil_iff.mpr all,
    String.ofList_toList, first]

theorem ofChars_eq_ofOptions_iff (distinct : Distinct forms) {chars : List Char}
    {given : List (String × String)} {awaited : Option String} :
    Word.ofChars forms chars = .ofOptions given awaited ↔
      OptionWord forms chars given awaited := by
  constructor
  · intro read
    rw [Word.ofChars.eq_def] at read
    split at read
    · exact optionWord_of_ofName distinct read
    · cases awaited <;> cases read
    · rename_i letters other some
      obtain ⟨given, rfl, shaped⟩ := letters_of_ofLetters distinct read
      cases letters with
      | nil => exact absurd rfl some
      | cons first rest => exact .letters (fun same => other rest (by rw [same])) shaped
    · cases awaited <;> cases read
  · intro word
    cases word with
    | flag known alone =>
        rw [Word.ofChars, ofName_name distinct known, alone]
        rfl
    | equals known takes =>
        have first := (find?_name_eq_some_iff distinct).mpr ⟨known, rfl⟩
        obtain ⟨front, behind⟩ := dropWhile_closed (distinct.closed _ known) _
        rw [Word.ofChars, Word.ofName, front, behind, String.ofList_toList]
        simp only [first, takes, if_true]
        rfl
    | awaiting known takes =>
        rw [Word.ofChars, ofName_name distinct known, takes]
        rfl
    | letters single shaped =>
        rw [Word.ofChars]
        · exact ofLetters_of_letters distinct shaped []
        · intro name same
          exact single (List.cons.inj same).1
        · exact List.cons_ne_nil _ _

theorem ofLetters_ne_operand (letters : List Char) (found : List (String × String)) :
    Word.ofLetters forms letters found ≠ .operand := by
  induction letters generalizing found with
  | nil => exact Word.noConfusion
  | cons letter rest ih =>
      rw [Word.ofLetters]
      split
      · exact Word.noConfusion
      · split
        · split <;> exact Word.noConfusion
        · exact ih _

theorem ofName_ne_operand (text : List Char) : Word.ofName forms text ≠ .operand := by
  rw [Word.ofName]
  split
  · exact Word.noConfusion
  · split <;> exact Word.noConfusion
  · split <;> exact Word.noConfusion

theorem ofChars_eq_operand_iff {word : String} :
    Word.ofChars forms word.toList = .operand ↔ IsPlain word := by
  rw [isPlain_iff]
  generalize word.toList = chars
  cases chars with
  | nil => exact iff_of_true rfl rfl
  | cons first rest =>
      by_cases dashed : first = '-'
      · subst dashed
        cases rest with
        | nil => exact iff_of_true rfl rfl
        | cons second rest =>
            refine iff_of_false ?_ Bool.false_ne_true
            by_cases again : second = '-'
            · subst again
              exact ofName_ne_operand rest
            · rw [Word.ofChars]
              · exact ofLetters_ne_operand _ _
              · intro name same
                exact again (List.cons.inj same).1
              · exact List.cons_ne_nil _ _
      · simp [Word.ofChars, Word.isValue, dashed]

theorem ne_dashes_of_optionWord (distinct : Distinct forms) {word : String}
    {given : List (String × String)} {awaited : Option String}
    (option : OptionWord forms word.toList given awaited) : word ≠ "--" := by
  have named {form : OptionForm} (known : form ∈ forms) :
      '-' :: '-' :: form.name.toList ≠ ['-', '-'] := by
    intro same
    have empty : form.name.toList = [] := (List.cons.inj (List.cons.inj same).2).2
    exact distinct.nonempty form known (String.toList_eq_nil_iff.mp empty)
  rintro rfl
  generalize spelled : "--".toList = chars at option
  cases option with
  | flag known alone => exact named known spelled.symm
  | equals known takes =>
      have longer := congrArg List.length spelled
      simp at longer
  | awaiting known takes => exact named known spelled.symm
  | letters single shaped => exact single (List.cons.inj (List.cons.inj spelled).2).1.symm

theorem ofWords?_eq_some_iff (distinct : Distinct forms) {words : List String}
    {found : Arguments} : Arguments.ofWords? forms words = some found ↔
      Sorts forms words found.operands found.options := by
  constructor
  · intro read
    fun_induction Arguments.ofWords? forms words generalizing found with
    | case1 =>
        cases read
        exact .nothing
    | case2 rest =>
        cases read
        exact .operands rest
    | case3 word _ rest plain ih =>
        obtain ⟨behind, more, rfl⟩ := Option.map_eq_some_iff.mp read
        exact .operand (ofChars_eq_operand_iff.mp plain) (ih more)
    | case4 word _ rest given option ih =>
        obtain ⟨behind, more, rfl⟩ := Option.map_eq_some_iff.mp read
        exact .options ((ofChars_eq_ofOptions_iff distinct).mp option) (ih more)
    | case5 word _ given name value rest option plain ih =>
        obtain ⟨behind, more, rfl⟩ := Option.map_eq_some_iff.mp read
        have options : (behind.withOptions (given ++ [(name, value)])).options =
            given ++ (name, value) :: behind.options := List.append_assoc _ _ _
        rw [options]
        exact .awaiting ((ofChars_eq_ofOptions_iff distinct).mp option) (isPlain_iff.mpr plain)
          (ih more)
    | case6 | case7 | case8 => cases read
  · intro sorted
    obtain ⟨operands, options⟩ := found
    dsimp only at sorted
    induction sorted with
    | nothing => rfl
    | operands rest =>
        rw [Arguments.ofWords?.eq_def]
        exact if_pos rfl
    | @operand word _ _ _ plain behind ih =>
        have single : word ≠ "--" := by
          rintro rfl
          exact absurd (isPlain_iff.mp plain) (by decide)
        have read : Word.ofChars forms word.toList = .operand := ofChars_eq_operand_iff.mpr plain
        rw [Arguments.ofWords?.eq_def]
        simp only [if_neg single, read, ih]
        rfl
    | options option behind ih =>
        have read := (ofChars_eq_ofOptions_iff distinct).mpr option
        rw [Word.ofOptions] at read
        rw [Arguments.ofWords?.eq_def]
        simp only [if_neg (ne_dashes_of_optionWord distinct option), read, ih]
        rfl
    | awaiting option plain behind ih =>
        have read := (ofChars_eq_ofOptions_iff distinct).mpr option
        rw [Word.ofOptions] at read
        rw [Arguments.ofWords?.eq_def]
        simp only [if_neg (ne_dashes_of_optionWord distinct option), read,
          isPlain_iff.mp plain, if_true, ih, Option.map_some, Arguments.withOptions,
          List.append_assoc, List.singleton_append]

theorem arguments?_eq_some_iff (distinct : Distinct forms) {words : List String}
    {found : Arguments} : arguments? forms words = some found ↔
      Sorts forms words found.operands found.options ∧ (found.options.map Prod.fst).Nodup := by
  rw [arguments?, Option.bind_eq_some_iff]
  constructor
  · rintro ⟨other, read, kept⟩
    split at kept
    · rename_i once
      cases kept
      exact ⟨(ofWords?_eq_some_iff distinct).mp read, once⟩
    · cases kept
  · rintro ⟨sorted, once⟩
    exact ⟨found, (ofWords?_eq_some_iff distinct).mpr sorted, if_pos once⟩

end Reader

theorem distinct_optionsOf (command : String) : Distinct (optionsOf command) := by
  unfold optionsOf
  split <;> constructor <;> decide

section Found

variable {found : Arguments} (once : (found.options.map Prod.fst).Nodup)

include once

theorem option?_eq_some_iff {name value : String} :
    found.option? name = some value ↔ (name, value) ∈ found.options :=
  Members.get?_eq_some_iff once

theorem option?_eq_none_iff {name : String} :
    found.option? name = none ↔ ∀ value, (name, value) ∉ found.options := by
  simp only [Option.eq_none_iff_forall_ne_some, Ne, option?_eq_some_iff once]

theorem destination?_eq_some_iff {destination : Destination} :
    destination? found = some destination ↔ Goes found.options destination := by
  rw [destination?, Arguments.has]
  cases out : found.option? "out" with
  | none =>
      have unnamed := (option?_eq_none_iff once).mp out
      cases kept : found.option? "in-place" with
      | none =>
          have apart := (option?_eq_none_iff once).mp kept
          constructor
          · intro screen
            cases screen
            exact .screen unnamed apart
          · rintro (_ | named | asked)
            · rfl
            · exact absurd named (unnamed _)
            · exact absurd asked (apart _)
      | some value =>
          have asked := (option?_eq_some_iff once).mp kept
          constructor
          · intro input
            cases input
            exact .input asked unnamed
          · rintro (⟨_, apart⟩ | named | _)
            · exact absurd asked (apart _)
            · exact absurd named (unnamed _)
            · rfl
  | some path =>
      have named := (option?_eq_some_iff once).mp out
      cases kept : found.option? "in-place" with
      | none =>
          have apart := (option?_eq_none_iff once).mp kept
          constructor
          · intro file
            change (if path = "" then none else some (Destination.file path)) = _ at file
            split at file
            · cases file
            · rename_i present
              cases file
              exact .file named present apart
          · rintro (unnamed | ⟨other, present⟩ | asked)
            · exact absurd named (unnamed _)
            · cases out.symm.trans ((option?_eq_some_iff once).mpr other)
              exact if_neg present
            · exact absurd asked (apart _)
      | some value =>
          have asked := (option?_eq_some_iff once).mp kept
          refine iff_of_false nofun ?_
          rintro (unnamed | ⟨_, _, apart⟩ | ⟨_, unnamed⟩)
          · exact unnamed _ named
          · exact apart _ asked
          · exact unnamed _ named

end Found

theorem inputFile?_eq_some_iff {operand input : String} :
    inputFile? operand = some input ↔ operand = input ∧ input ≠ "" := by
  rw [inputFile?]
  split
  · rename_i empty
    exact iff_of_false nofun fun same => same.2 (same.1.symm.trans empty)
  · rename_i present
    rw [Option.some.injEq]
    exact ⟨fun same => ⟨same, same ▸ present⟩, And.left⟩

theorem options_of_no_forms {words operands : List String} {options : List (String × String)}
    (sorted : Sorts [] words operands options) : options = [] := by
  have none {chars : List Char} {given : List (String × String)} {awaited : Option String}
      (option : OptionWord [] chars given awaited) : False := by
    cases option with
    | flag known | equals known | awaiting known => cases known
    | letters single shaped =>
        cases shaped with
        | flag known | equals known | attached known | awaiting known => cases known
  induction sorted with
  | nothing | operands => rfl
  | operand plain behind ih => exact ih
  | options option => exact (none option).elim
  | awaiting option => exact (none option).elim

namespace CommandLine

theorem spells_of_arguments {command input : String} {words rest : List String}
    {found : Arguments} {destination : Destination}
    (read : arguments? (optionsOf command) words = some found)
    (operands : found.operands = input :: rest) (named : input ≠ "")
    (sent : destination? found = some destination) :
    (CommandLine.mk command input rest found.options destination).Spells (command :: words) := by
  obtain ⟨sorted, once⟩ := (arguments?_eq_some_iff (distinct_optionsOf command)).mp read
  rw [operands] at sorted
  exact ⟨⟨words, rfl, sorted⟩, once, named, (destination?_eq_some_iff once).mp sent⟩

theorem arguments_of_spells {line : CommandLine} {words : List String}
    (spelled : line.Spells words) :
    ∃ rest, words = line.command :: rest ∧
      let found : Arguments := ⟨line.input :: line.operands, line.options⟩
      arguments? (optionsOf line.command) rest = some found ∧
        inputFile? line.input = some line.input ∧ destination? found = some line.destination := by
  obtain ⟨⟨rest, rfl, sorted⟩, once, named, goes⟩ := spelled
  refine ⟨rest, rfl, ?_, inputFile?_eq_some_iff.mpr ⟨rfl, named⟩, ?_⟩
  · exact (arguments?_eq_some_iff (distinct_optionsOf _)).mpr ⟨sorted, once⟩
  · exact (destination?_eq_some_iff once).mpr goes

/-- No words spell two command lines. -/
theorem Spells.unique {line other : CommandLine} {words : List String}
    (spelled : line.Spells words) (again : other.Spells words) : line = other := by
  obtain ⟨command, input, operands, options, destination⟩ := line
  obtain ⟨command', input', operands', options', destination'⟩ := other
  obtain ⟨rest, rfl, read, _, sent⟩ := arguments_of_spells spelled
  obtain ⟨rest', same, read', _, sent'⟩ := arguments_of_spells again
  cases same
  cases read.symm.trans read'
  cases sent.symm.trans sent'
  rfl

/-- The last steps of reading most commands. -/
theorem made_iff {operand : String} {found : Arguments} {request : Request}
    {make : String → Destination → Request} :
    ((inputFile? operand).bind fun input => (destination? found).bind fun destination =>
      some (make input destination)) = some request ↔
      ∃ destination, operand ≠ "" ∧ destination? found = some destination ∧
        make operand destination = request := by
  simp only [Option.bind_eq_some_iff, inputFile?_eq_some_iff, Option.some.injEq]
  constructor
  · rintro ⟨input, ⟨rfl, named⟩, destination, sent, made⟩
    exact ⟨destination, named, sent, made⟩
  · rintro ⟨destination, named, sent, made⟩
    exact ⟨operand, ⟨rfl, named⟩, destination, sent, made⟩

/-- What the reader of command lines accepts. -/
theorem ofWords?_eq_some_iff {words : List String} {request : Request} :
    Request.ofWords? words = some request ↔
      ∃ line : CommandLine, line.Spells words ∧ line.request? = some request := by
  constructor
  · intro accepted
    cases words with
    | nil => cases accepted
    | cons command words =>
        change Request.ofCommand? command words = some request at accepted
        unfold Request.ofCommand? at accepted
        split at accepted
        case h_4 =>
          obtain ⟨found, read, accepted⟩ := Option.bind_eq_some_iff.mp accepted
          split at accepted
          · rename_i operands
            obtain ⟨input, file, made⟩ := Option.bind_eq_some_iff.mp accepted
            obtain ⟨rfl, named⟩ := inputFile?_eq_some_iff.mp file
            cases made
            -- without options there is only one place for the result
            have sorted := ((arguments?_eq_some_iff (distinct_optionsOf "get")).mp read).1
            have sent : destination? found = some .screen := by
              rw [destination?, Arguments.has, Arguments.option?, Arguments.option?,
                options_of_no_forms sorted]
              rfl
            exact ⟨_, spells_of_arguments read operands named sent, rfl⟩
          · cases accepted
        case h_7 => cases accepted
        all_goals
          obtain ⟨found, read, accepted⟩ := Option.bind_eq_some_iff.mp accepted
          split at accepted
          · rename_i operands
            obtain ⟨destination, named, sent, rfl⟩ := made_iff.mp accepted
            exact ⟨_, spells_of_arguments read operands named sent, rfl⟩
          · cases accepted
  · rintro ⟨⟨command, input, operands, options, destination⟩, spelled, asked⟩
    obtain ⟨rest, rfl, read, file, sent⟩ := arguments_of_spells spelled
    unfold request? at asked
    split at asked
    case h_7 => cases asked
    all_goals
      rename_i command operands
      dsimp only at command operands read file sent
      subst command operands
      cases asked
      refine Option.bind_eq_some_iff.mpr ⟨_, read, ?_⟩
    case h_4 =>
      exact Option.bind_eq_some_iff.mpr ⟨_, file, rfl⟩
    all_goals exact made_iff.mpr ⟨destination, spelled.named, sent, rfl⟩

end CommandLine

end RichMessage.Command
