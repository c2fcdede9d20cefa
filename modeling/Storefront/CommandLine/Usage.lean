import Storefront.CommandLine.Arguments

/-!
Reading the words of a command line, one after the other. The value of a setting may be part of its
word or the next word. A value is looked at only when the next known word or the end of the line is
reached; so a word that is not known is told of before it. The first fault counts.
-/

namespace Storefront.CommandLine

/-- Why a command line asks for no survey. -/
inductive Refusal where
  | missingInput | conflict | invalidValue | unknownArgument | unneededValue
  /-- The command line asks for help. -/
  | help
  /-- The command line asks for the version. -/
  | version
  deriving DecidableEq, Repr

namespace Refusal

/-- The wording of a refusal. -/
def message : Refusal → String
  | missingInput => "an input is required"
  | conflict => "an argument is given twice, or the input comes from two places"
  | invalidValue => "a value is missing or is not one of those that are possible"
  | unknownArgument => "an argument is not known"
  | unneededValue => "an argument takes no value"
  | help => "usage: storefront [OPTIONS] [INPUT]"
  | version => "storefront " ++ Report.version

/-- Whether what is refused was asked for. -/
def isRequest (refusal : Refusal) : Bool := refusal = help || refusal = version

end Refusal

/-- What still has to be looked at. -/
inductive Pending where
  /-- A setting without a value so far. -/
  | awaiting (setting : Setting)
  /-- A setting and its value. -/
  | value (setting : Setting) (text : String)
  | input (path : String)
  deriving DecidableEq, Repr

/-- How far the words have been read. -/
structure Progress where
  arguments : Arguments
  pending : Option Pending
  deriving DecidableEq, Repr

namespace Progress

/-- Nothing read so far. -/
def start : Progress := ⟨.none, none⟩

/-! ### Values -/

/-- A path that is given for the first time and is not empty. -/
def firstPath (given : Option String) (path : String) : Except Refusal (Option String) :=
  if given.isSome then .error .conflict
  else if path.isEmpty then .error .invalidValue
  else .ok (some path)

/-- The arguments with a setting. -/
def assign (arguments : Arguments) (setting : Setting) (text : String) :
    Except Refusal Arguments :=
  match setting with
  | .config =>
    (firstPath arguments.config text).map fun path => { arguments with config := path }
  | .output =>
    (firstPath arguments.output text).map fun path => { arguments with output := path }
  | .format =>
    if arguments.format.isSome then .error .conflict
    else
      match Report.Format.ofName? text with
      | some format => .ok { arguments with format := some format }
      | none => .error .invalidValue

/-- Looks at what is pending. -/
def settle (progress : Progress) : Except Refusal Arguments :=
  match progress.pending with
  | none => .ok progress.arguments
  | some (.awaiting _) => .error .invalidValue
  | some (.value setting text) => assign progress.arguments setting text
  | some (.input path) =>
    (firstPath progress.arguments.input path).map fun path =>
      { progress.arguments with input := path }

/-! ### Words -/

/-- Takes a setting whose value is the next word. -/
def await (progress : Progress) (setting : Setting) : Except Refusal Progress := do
  let arguments ← progress.settle
  .ok ⟨arguments, some (.awaiting setting)⟩

/-- Takes a setting whose value is part of its word. -/
def attach (progress : Progress) (setting : Setting) (text : String) :
    Except Refusal Progress := do
  let arguments ← progress.settle
  let arguments ← assign arguments setting text
  .ok ⟨arguments, none⟩

/-- Takes a flag. -/
def switchOn (progress : Progress) (flag : Flag) : Except Refusal Progress := do
  let arguments ← progress.settle
  if arguments.has flag then .error .conflict
  else .ok ⟨{ arguments with flags := arguments.flags ++ [flag] }, none⟩

/-- Stops with what is asked for instead of a survey. -/
def stop (progress : Progress) (refusal : Refusal) : Except Refusal Progress := do
  let _ ← progress.settle
  .error refusal

/-- What a name after two hyphens stands for. -/
inductive Meaning where
  | flag (flag : Flag)
  | setting (setting : Setting)
  | stop (refusal : Refusal)
  deriving DecidableEq, Repr

/-- The meaning of a name. -/
def meaning? (name : String) : Option Meaning :=
  if name = "help" then some (.stop .help)
  else if name = "version" then some (.stop .version)
  else
    match Flag.all.find? fun flag => flag.name == name with
    | some flag => some (.flag flag)
    | none => (Setting.all.find? fun setting => setting.name == name).map .setting

/-- Takes a word after its two hyphens. -/
def takeName (progress : Progress) (word : List Char) : Except Refusal Progress :=
  let name := String.ofList (word.takeWhile (· ≠ '='))
  match meaning? name, word.dropWhile (· ≠ '=') with
  | none, _ => .error .unknownArgument
  | some (.setting setting), [] => progress.await setting
  | some (.setting setting), _ :: value => progress.attach setting (String.ofList value)
  | some (.flag flag), [] => progress.switchOn flag
  | some (.stop refusal), [] => progress.stop refusal
  | some (.flag _), _ :: _ | some (.stop _), _ :: _ => .error .unneededValue

/-- Takes a word after its only hyphen. -/
def takeLetter (progress : Progress) (letter : Char) (rest : List Char) :
    Except Refusal Progress :=
  if letter = 'h' then progress.stop .help
  else if letter = 'V' then progress.stop .version
  else
    match Setting.all.find? fun setting => setting.letter == letter, rest with
    | none, _ => .error .unknownArgument
    | some setting, [] => progress.await setting
    | some setting, '=' :: value => progress.attach setting (String.ofList value)
    | some setting, value => progress.attach setting (String.ofList value)

/-- Takes a word that is no option: the input, if there is none yet. -/
def takeInput (progress : Progress) (word : String) : Except Refusal Progress :=
  let taken := match progress.pending with
    | some (.input _) => true
    | _ => progress.arguments.input.isSome
  if taken then .error .unknownArgument
  else do
    let arguments ← progress.settle
    .ok ⟨arguments, some (.input word)⟩

/-- Takes a word that is no option, where a setting may wait for its value. -/
def takePlain (progress : Progress) (word : String) : Except Refusal Progress :=
  match progress.pending with
  | some (.awaiting setting) => .ok { progress with pending := some (.value setting word) }
  | _ => progress.takeInput word

/-- Takes the words one after the other. After two hyphens alone no word is an option or a value. -/
def take (progress : Progress) : List String → Except Refusal Progress
  | [] => .ok progress
  | word :: rest =>
    match word.toList with
    | ['-', '-'] => rest.foldlM takeInput progress
    | '-' :: '-' :: name => do take (← progress.takeName name) rest
    | '-' :: letter :: others => do take (← progress.takeLetter letter others) rest
    | _ => do take (← progress.takePlain word) rest

end Progress

/-- Whether nothing has to be read. -/
def needsNoInput (arguments : Arguments) : Bool :=
  arguments.has .stdin || arguments.has .listConditions || arguments.has .listPatterns

/-- What the words of a command line ask for. Input comes from one place only. -/
def parse (words : List String) : Except Refusal Arguments := do
  let progress ← Progress.start.take words
  let arguments ← progress.settle
  if arguments.has .stdin && arguments.input.isSome then .error .conflict
  else if arguments.input.isNone && !needsNoInput arguments then .error .missingInput
  else .ok arguments

end Storefront.CommandLine
