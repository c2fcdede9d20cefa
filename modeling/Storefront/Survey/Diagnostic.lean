import Storefront.Json.Basic

/-!
Diagnostics: what a survey passed over or could not understand. None of them stops it.
-/

namespace Storefront.Survey

/-- How grave a diagnostic is. -/
inductive Severity where
  | info | warning | error
  deriving DecidableEq, Repr

namespace Severity

/-- The letter that stands for a severity in a line of text. -/
def letter : Severity → String
  | info => "I"
  | warning => "W"
  | error => "E"

/-- The name of a severity. -/
def name : Severity → String
  | info => "info"
  | warning => "warning"
  | error => "error"

end Severity

/-- What a diagnostic is about. -/
inductive DiagnosticKind where
  | unrecognizedGuard | unrecognizedLoop | malformedBound | failedInversion | contractViolation
  | unrecognizedLabel | noDispatchSwitch | skippedSection | duplicateShop | excludedShop
  deriving DecidableEq, Repr

namespace DiagnosticKind

/-- Every kind of diagnostic. -/
def all : List DiagnosticKind := [
  unrecognizedGuard, unrecognizedLoop, malformedBound, failedInversion, contractViolation,
  unrecognizedLabel, noDispatchSwitch, skippedSection, duplicateShop, excludedShop]

/-- The words of a kind's name. -/
def words : DiagnosticKind → List String
  | unrecognizedGuard => ["unrecognized", "guard"]
  | unrecognizedLoop => ["unrecognized", "loop"]
  | malformedBound => ["malformed", "bound"]
  | failedInversion => ["failed", "inversion"]
  | contractViolation => ["contract", "violation"]
  | unrecognizedLabel => ["unrecognized", "label"]
  | noDispatchSwitch => ["no", "dispatch", "switch"]
  | skippedSection => ["skipped", "section"]
  | duplicateShop => ["duplicate", "shop"]
  | excludedShop => ["excluded", "shop"]

/-- The name of a kind in a line of text. -/
def name (kind : DiagnosticKind) : String := "-".intercalate kind.words

/-- The name of a kind in JSON. -/
def jsonName (kind : DiagnosticKind) : String := "_".intercalate kind.words

/-- The kind of a name. -/
def ofName? (name : String) : Option DiagnosticKind := all.find? fun kind => kind.name == name

/-- How grave the diagnostics of a kind are. -/
def severity : DiagnosticKind → Severity
  | contractViolation => .error
  | excludedShop => .info
  | _ => .warning

theorem mem_all (kind : DiagnosticKind) : kind ∈ all := by cases kind <;> decide

end DiagnosticKind

/-- How grave a diagnostic of a kind is: as grave as its kind, where nothing else is said. -/
class Graded (kind : DiagnosticKind) where
  severity : Severity
  deriving DecidableEq, Repr

instance (kind : DiagnosticKind) : Graded kind := ⟨kind.severity⟩

/-- Something that a survey passed over or could not understand: the shop in which, the text of what
it is about, and why. -/
structure Diagnostic where
  kind : DiagnosticKind
  shop : Option Int
  construct : String
  message : String
  [graded : Graded kind]
  deriving DecidableEq, Repr

namespace Diagnostic

/-- A diagnostic of any severity. -/
def ofSeverity (kind : DiagnosticKind) (severity : Severity) (shop : Option Int)
    (construct message : String) : Diagnostic :=
  { kind, shop, construct, message, graded := ⟨severity⟩ }

/-- How grave a diagnostic is. -/
def severity (diagnostic : Diagnostic) : Severity := diagnostic.graded.severity

/-- A diagnostic in one line. -/
def text (diagnostic : Diagnostic) : String :=
  (match diagnostic.shop with
    | some shop => "shop " ++ toString shop ++ ": "
    | none => "-: ") ++
  diagnostic.severity.letter ++ ": " ++ diagnostic.kind.name ++ ": " ++ diagnostic.message ++
  (if diagnostic.construct.isEmpty then "" else " [" ++ diagnostic.construct ++ "]")

/-- The value of a diagnostic; a missing shop is left out. -/
def toJson (diagnostic : Diagnostic) : Json :=
  .obj ([("kind", .str diagnostic.kind.jsonName), ("severity", .str diagnostic.severity.name)] ++
    (diagnostic.shop.map fun shop => ("shop", Json.int shop)).toList ++
    [("construct", .str diagnostic.construct), ("message", .str diagnostic.message)])

end Diagnostic

end Storefront.Survey
