import Storefront.Report.Format

/-!
What the words of a command line ask for.
-/

namespace Storefront.CommandLine

/-- What is switched on or off. -/
inductive Flag where
  | stdin | astJson | debug | listConditions | listPatterns | failOnError
  deriving DecidableEq, Repr

namespace Flag

/-- Every flag. -/
def all : List Flag := [stdin, astJson, debug, listConditions, listPatterns, failOnError]

/-- The name of a flag, which follows two hyphens. -/
def name : Flag → String
  | stdin => "stdin"
  | astJson => "ast-json"
  | debug => "debug"
  | listConditions => "list-conditions"
  | listPatterns => "list-patterns"
  | failOnError => "fail-on-error"

theorem mem_all (flag : Flag) : flag ∈ all := by cases flag <;> decide

end Flag

/-- What takes a value. -/
inductive Setting where
  | config | format | output
  deriving DecidableEq, Repr

namespace Setting

/-- Everything that takes a value. -/
def all : List Setting := [config, format, output]

/-- The name of a setting, which follows two hyphens. -/
def name : Setting → String
  | config => "config"
  | format => "format"
  | output => "output"

/-- The letter of a setting, which follows one hyphen. -/
def letter : Setting → Char
  | config => 'c'
  | format => 'f'
  | output => 'o'

theorem mem_all (setting : Setting) : setting ∈ all := by cases setting <;> decide

end Setting

/-- What a command line asks for. -/
structure Arguments where
  input : Option String
  config : Option String
  format : Option Report.Format
  output : Option String
  flags : List Flag
  deriving DecidableEq, Repr

namespace Arguments

/-- A command line that asks for nothing. -/
def none : Arguments := ⟨.none, .none, .none, .none, []⟩

/-- Whether a flag is given. -/
def has (arguments : Arguments) (flag : Flag) : Bool := arguments.flags.contains flag

/-- The form of the report, in words unless another one is asked for. -/
def reportFormat (arguments : Arguments) : Report.Format := arguments.format.getD .text

end Arguments

/-! ### Paths -/

/-- The steps of a path; those that lead nowhere are left out. -/
def steps (path : String) : List (List Char) :=
  (path.toList.splitOn '/').filter fun step => step ≠ [] && step ≠ ['.']

/-- What follows the last point of a path's last step. A step that begins with its only point has no
such part, and neither has the step to the enclosing directory. -/
def extension? (path : String) : Option (List Char) := do
  let step ← (steps path).getLast?
  let reversed := step.reverse
  let ending := reversed.takeWhile (· ≠ '.')
  match reversed.dropWhile (· ≠ '.') with
  | '.' :: stem => if stem = [] || step = ['.', '.'] then none else some ending.reverse
  | _ => none

/-- Whether the input is a syntax tree as JSON: if a flag says so, or the name of the input. -/
def Arguments.readsTree (arguments : Arguments) : Bool :=
  arguments.has .astJson ||
    (arguments.input.bind extension?).any fun ending =>
      ending.map Char.toLower = ['j', 's', 'o', 'n']

end Storefront.CommandLine
