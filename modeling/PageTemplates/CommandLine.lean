import PageTemplates.Discovery
import PageTemplates.Render

/-!
# The command line

    panel [--root DIR] [--config FILE] render MANIFEST [-o FILE] [-n NAME]
    panel [--root DIR] [--config FILE] blocks TEMPLATE [--format text|json]

The first two options may also stand behind the name of the command, where they
count more.  The value of an option follows it, or is attached: behind an equals
sign, or directly to the letter of a short option.  A value of its own does not
start with a dash, unless it is a dash and nothing else.  An option is given at
most once in front of the command and once behind it.  Behind two dashes every
word is an argument.

The words are read from left to right, and the first one that asks for help or
for the version ends the reading.  A word in front of it that is not allowed
counts more.  An option whose value is the next word is checked when the word
behind its value is met, and one right in front of the command's name only when
the words behind that name have been read.

`Demand.ofArguments` reads the words and `Invocation.run` does what they ask
for.
-/

namespace PageTemplates

/-- An option that takes a value. -/
structure OptionSpec where
  /-- The long name, without dashes. -/
  name : Text
  /-- The letter of the short form. -/
  letter : Option Char := none
  /-- Which values are allowed. -/
  accepts : Text → Bool

/-- Which words are expected on one side of the command's name. -/
structure ArgumentRules where
  options : List OptionSpec
  /-- Which argument is allowed.  In front of the command's name there is none. -/
  argument : Option (Text → Bool)

/-- The words read so far on one side of the command's name. -/
structure WordsRead where
  /-- The options that were checked, with their values. -/
  options : Table Text := []
  /-- An option whose value is the next word. -/
  wanting : Option OptionSpec := none
  /-- The last option with its value, if not checked yet. -/
  unchecked : Option (OptionSpec × Text) := none
  argument : Option Text := none
  /-- Whether two dashes were met. -/
  isTrailing : Bool := false

/-- What the words on one side of the command's name say. -/
inductive ArgumentGroup where
  | wrong
  | version
  | help
  /-- Options and the argument, all checked. -/
  | words (options : Table Text) (argument : Option Text)
  /-- What was read in front of the name of a command, that name, and the words behind it. -/
  | command (front : WordsRead) (name : Text) (rest : List Text)

/-- The commands of the program. -/
inductive ProgramCommand where
  | render (request : RenderRequest)
  | blocks (template : Text) (format : ListingFormat)

/-- A command and where its templates and settings are. -/
structure Invocation where
  root : Option Text
  settings : Option Text
  command : ProgramCommand

/-- What the program is asked to do. -/
inductive Demand where
  | wrong
  | version
  | help
  | run (invocation : Invocation)

namespace OptionSpec

/-- A path cannot be empty. -/
def isPath (value : Text) : Bool := !value.isEmpty

/-- The option for the template root. -/
def root : OptionSpec := { name := "root".toList, accepts := isPath }

/-- The option for the settings file. -/
def settings : OptionSpec := { name := "config".toList, accepts := isPath }

/-- The option for the output file. -/
def output : OptionSpec := { name := "output".toList, letter := some 'o', accepts := isPath }

/-- The option for the namespace. -/
def namespaceName : OptionSpec :=
  { name := "namespace".toList, letter := some 'n', accepts := fun _ => true }

/-- The formats by name. -/
def format? (name : Text) : Option ListingFormat :=
  if name = "text".toList then some .text
  else if name = "json".toList then some .json
  else none

/-- The option for the format of a listing. -/
def format : OptionSpec :=
  { name := "format".toList, accepts := fun value => (format? value).isSome }

/-- The options of every command. -/
def shared : List OptionSpec := [root, settings]

end OptionSpec

namespace WordsRead

/-- Notes the value of an option, if it is allowed and the first one. -/
def store (spec : OptionSpec) (value : Text) (state : WordsRead) : Option WordsRead :=
  if state.options.has spec.name || !spec.accepts value then none
  else some { state with options := state.options.insert spec.name value }

/-- Checks the last option. -/
def settle (state : WordsRead) : Option WordsRead :=
  match state.unchecked with
  | none => some state
  | some (spec, value) => store spec value { state with unchecked := none }

/-- Notes the argument, if it is allowed and the first one. -/
def storeArgument (rules : ArgumentRules) (word : Text) (state : WordsRead) : Option WordsRead :=
  match rules.argument, state.argument with
  | some accepts, none => if accepts word then some { state with argument := some word } else none
  | _, _ => none

end WordsRead

namespace ArgumentGroup

/-- Whether a word is an option or the mark that ends the options. -/
def looksLikeOption (word : Text) : Bool := word.head? == some '-' && word != ['-']

/-- A long option and the value attached to it. -/
def splitLong (word : Text) : Text × Option Text :=
  match Text.firstSplit? ['='] word with
  | some (name, value) => (name, some value)
  | none => (word, none)

/-- The value attached to a short option. -/
def attached : Text → Option Text
  | [] => none
  | '=' :: value => some value
  | value => some value

/-- What the word of an option says. -/
inductive Meaning where
  | unknown
  | version
  | help
  /-- It takes a value, which may be attached. -/
  | option (spec : OptionSpec) (attached : Option Text)

/-- The meaning of a word behind two dashes.  The version can be asked for only
in front of the command's name. -/
def meaningLong (rules : ArgumentRules) (word : Text) : Meaning :=
  let (name, value) := splitLong word
  if name = "help".toList ∧ value = none then .help
  else if rules.argument.isNone ∧ name = "version".toList ∧ value = none then .version
  else
    match rules.options.find? fun spec => spec.name = name with
    | some spec => .option spec value
    | none => .unknown

/-- The meaning of a word behind one dash. -/
def meaningShort (rules : ArgumentRules) : Text → Meaning
  | [] => .unknown
  | letter :: rest =>
    if letter = 'h' then .help
    else if rules.argument.isNone ∧ letter = 'V' then .version
    else
      match rules.options.find? fun spec => spec.letter = some letter with
      | some spec => .option spec (attached rest)
      | none => .unknown

/-- The meaning of the word of an option. -/
def meaning (rules : ArgumentRules) : Text → Meaning
  | '-' :: '-' :: word => meaningLong rules word
  | '-' :: word => meaningShort rules word
  | _ => .unknown

/-- Reads words.  Where no argument is allowed, the first word that is neither an
option nor a value is the name of the command. -/
def read (rules : ArgumentRules) (state : WordsRead) : (words : List Text) → ArgumentGroup
  | [] =>
    if state.wanting.isSome then .wrong
    else
      match state.settle with
      | some state => .words state.options state.argument
      | none => .wrong
  | word :: rest =>
    match state.wanting with
    | some spec =>
      if looksLikeOption word then .wrong
      else read rules { state with wanting := none, unchecked := some (spec, word) } rest
    | none =>
      if !state.isTrailing && word = ['-', '-'] then
        read rules { state with isTrailing := true } rest
      else if !state.isTrailing && !looksLikeOption word && rules.argument.isNone then
        .command state word rest
      else
        match state.settle with
        | none => .wrong
        | some state =>
          if state.isTrailing || !looksLikeOption word then
            match state.storeArgument rules word with
            | some state => read rules state rest
            | none => .wrong
          else
            match meaning rules word with
            | .unknown => .wrong
            | .version => .version
            | .help => .help
            | .option spec none => read rules { state with wanting := some spec } rest
            | .option spec (some value) =>
              match state.store spec value with
              | some state => read rules state rest
              | none => .wrong

end ArgumentGroup

namespace Demand

/-- A shared option: the one behind the command's name counts more. -/
def sharedOption (spec : OptionSpec) (front behind : Table Text) : Option Text :=
  (behind.get? spec.name).or (front.get? spec.name)

/-- The demand for a command, given the words in front of its name, which may
still hold an option to check, and the options behind it. -/
def ofCommand (front : WordsRead) (behind : Table Text) (command : ProgramCommand) : Demand :=
  match front.settle with
  | some front =>
    .run ⟨sharedOption .root front.options behind,
      sharedOption .settings front.options behind, command⟩
  | none => .wrong

/-- Reads the words behind the command's name. -/
def ofWords (front : WordsRead) (specs : List OptionSpec) (accepts : Text → Bool)
    (command : Table Text → Text → ProgramCommand) (words : List Text) : Demand :=
  match ArgumentGroup.read ⟨OptionSpec.shared ++ specs, some accepts⟩ {} words with
  | .words options (some argument) => ofCommand front options (command options argument)
  | .help => .help
  | .version => .version
  | .words _ none => .wrong
  | .wrong => .wrong
  | .command _ _ _ => .wrong

/-- The command that renders. -/
def renderCommand (options : Table Text) (manifest : Text) : ProgramCommand :=
  .render
    { manifest := manifest
      output := options.get? OptionSpec.output.name
      namespaceName := options.get? OptionSpec.namespaceName.name }

/-- The command that lists blocks. -/
def blocksCommand (options : Table Text) (template : Text) : ProgramCommand :=
  .blocks template (((options.get? OptionSpec.format.name).bind OptionSpec.format?).getD .text)

/-- The names of the commands, that of the command for help among them. -/
def commandNames : List Text := ["render".toList, "blocks".toList, "help".toList]

/-- The command for help takes the name of a command, or nothing. -/
def ofHelp : (words : List Text) → Demand
  | [] => .help
  | [name] => if commandNames.contains name then .help else .wrong
  | _ => .wrong

/-- Reads the words of a command line. -/
def ofArguments (words : List Text) : Demand :=
  match ArgumentGroup.read ⟨OptionSpec.shared, none⟩ {} words with
  | .command front name rest =>
    if name = "render".toList then
      ofWords front [.output, .namespaceName] OptionSpec.isPath renderCommand rest
    else if name = "blocks".toList then ofWords front [.format] (fun _ => true) blocksCommand rest
    else if name = "help".toList then ofHelp rest
    else .wrong
  | .version => .version
  | .help => .help
  | .words _ _ => .wrong
  | .wrong => .wrong

end Demand

/-- What a run of the program leaves behind. -/
structure ProgramResult where
  /-- What was written to standard output. -/
  printed : Text
  files : FileTree
  /-- Why it failed, if it did. -/
  error : Option CommandError

namespace Invocation

/-- Does what an invocation asks for. -/
def run (invocation : Invocation) (environment : Environment) (files : FileTree) : ProgramResult :=
  match Settings.resolve environment invocation.settings invocation.root files with
  | .error error => ⟨[], files, some error⟩
  | .ok settings =>
    match invocation.command with
    | .render request =>
      let result := PageTemplates.render settings request false files
      match result.outcome with
      | .ok _ => ⟨result.printed, result.files, none⟩
      | .error error => ⟨result.printed, result.files, some error⟩
    | .blocks template format =>
      match listBlocks settings template format files with
      | .ok listing => ⟨listing, files, none⟩
      | .error error => ⟨[], files, some error⟩

end Invocation

/-- What the program shows as its version. -/
def versionText : Text := "panel 0.1.0\n".toList

end PageTemplates
