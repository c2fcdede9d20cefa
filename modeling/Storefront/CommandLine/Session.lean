import Storefront.CommandLine.Arguments
import Storefront.Script.Reading.Procedure
import Storefront.Script.Tree
import Storefront.Survey.SettingsFile
import Storefront.Yaml.Reading

/-!
A survey as a command line asks for it. The settings are read before the input; what is wrong with
either ends the session. What is found at a path is an argument, so that a session can be reasoned
about without files.
-/

namespace Storefront.CommandLine

open Storefront.Script Storefront.Survey

/-! ### Files -/

/-- What is at a path. -/
inductive Found where
  | nothing
  /-- Something that is not read as text. -/
  | unreadable
  | text (content : String)
  deriving DecidableEq, Repr

/-- Where input comes from. -/
structure Source where
  lookAt (path : String) : Found
  standardInput : Found

/-! ### Failures -/

/-- Why a session ended without a report. -/
inductive Failure where
  | unreadableSettings (path : String)
  | malformedSettings (path : String)
  | invalidSettings (path : String) (fault : SettingsFault)
  | unreadableInput (name : String)
  | malformedInput (name : String) (error : ParseError)
  | malformedTree (name : String)
  | noOutput (path : String)
  deriving Repr

namespace Failure

/-- What failed. -/
def message : Failure → String
  | unreadableSettings path => "failed to read config " ++ path
  | malformedSettings path => "failed to parse " ++ path
  | invalidSettings path _ => "invalid config " ++ path
  | unreadableInput name => "failed to read " ++ name
  | malformedInput name _ => "failed to parse " ++ name
  | malformedTree name => "failed to parse syntax tree " ++ name
  | noOutput path => "failed to create " ++ path

/-- Why it failed, if the text that failed is known to be at fault. -/
def cause? : Failure → Option String
  | invalidSettings _ fault => some fault.message
  | malformedInput _ error => some error.text
  | _ => none

/-- What failed and why, in one line. -/
def text (failure : Failure) : String :=
  match failure.cause? with
  | some cause => failure.message ++ ": " ++ cause
  | none => failure.message

end Failure

/-! ### Settings -/

/-- Where settings are looked for unless another path is given. -/
def usualSettingsPath : String := ".storefront.yml"

/-- Settings, and the path of the file that they are from, if there is one. -/
structure LoadedSettings where
  settings : Settings
  path : Option String
  deriving DecidableEq, Repr

/-- The settings of a text. -/
def settingsOfText (path text : String) : Except Failure Settings :=
  match Yaml.parse? text with
  | none => .error (.malformedSettings path)
  | some yaml => (Settings.ofYaml yaml).mapError (.invalidSettings path)

/-- The settings of a file, the defaults if there is none. -/
def loadSettings (source : Source) (path : String) : Except Failure LoadedSettings :=
  match source.lookAt path with
  | .nothing => .ok ⟨.standard, none⟩
  | .unreadable => .error (.unreadableSettings path)
  | .text text => (settingsOfText path text).map fun settings => ⟨settings, some path⟩

/-! ### The input -/

/-- The name and the text of the input. -/
def readInput (source : Source) (arguments : Arguments) : Except Failure (String × String) :=
  match arguments.input with
  | none =>
    match source.standardInput with
    | .text text => .ok ("<stdin>", text)
    | _ => .error (.unreadableInput "stdin")
  | some path =>
    match source.lookAt path with
    | .text text => .ok (path, text)
    | _ => .error (.unreadableInput path)

/-- The procedure of a text, a script or a tree. -/
def readProcedure (asTree : Bool) (name text : String) : Except Failure (List Stmt) :=
  if asTree then
    match stmtsOfTree? text with
    | some body => .ok body
    | none => .error (.malformedTree name)
  else (parseProcedure text).mapError (.malformedInput name)

/-! ### The session -/

/-- What a session found. -/
def run (source : Source) (arguments : Arguments) : Except Failure Outcome := do
  let loaded ← loadSettings source (arguments.config.getD usualSettingsPath)
  let (name, text) ← readInput source arguments
  let body ← readProcedure arguments.readsTree name text
  .ok (survey loaded.settings body)

/-- The exit code after a report: an error counts only if it is asked for. -/
def exitCode (arguments : Arguments) (outcome : Outcome) : Nat :=
  if arguments.has .failOnError && outcome.hasErrors then 1 else 0

/-- The report that a session writes. -/
def report (arguments : Arguments) (outcome : Outcome) : String :=
  arguments.reportFormat.report outcome

end Storefront.CommandLine
