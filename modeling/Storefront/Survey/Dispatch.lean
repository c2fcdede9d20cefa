import Storefront.Stock.Directory
import Storefront.Survey.Walk

/-!
Surveying a whole setup procedure. Its first switch dispatches on the number of a shop: each section
with one literal label sets up the shop of that number, by itself. The first section of a number
counts; a later one is walked all the same, and its shop is dropped.
-/

namespace Storefront.Survey

open Storefront.Guard Storefront.Script Storefront.Stock

/-! ### The dispatching switch -/

mutual

/-- The sections of the switch that a statement is or, as a block, holds first. -/
def dispatchIn? : Stmt → Option (List SwitchSection)
  | .switch _ sections => some sections
  | .block body => dispatch? body
  | _ => none

/-- The sections of the first switch among statements, with plain blocks opened. -/
def dispatch? : List Stmt → Option (List SwitchSection)
  | [] => none
  | first :: rest =>
    match dispatchIn? first with
    | some sections => some sections
    | none => dispatch? rest

end

/-! ### Sections -/

/-- A label as it is written. -/
def labelText : CaseLabel → String
  | .case value => "case " ++ value.text ++ ":"
  | .default => "default:"

/-- The number of the shop that a section with these labels sets up, or why it sets up none. -/
def shopOfLabels (settings : Settings) : List CaseLabel → Except Diagnostic Int
  | [.case label] =>
    match label.asInt with
    | none => .error ⟨.skippedSection, none, "case " ++ label.text,
        "dispatch label is not an integer literal"⟩
    | some id =>
      if settings.isExcluded id then
        .error ⟨.excludedShop, some id, "case " ++ toString id,
          "shop id is excluded by configuration"⟩
      else .ok id
  | labels => .error ⟨.skippedSection, none, " ".intercalate (labels.map labelText),
      "dispatch section needs exactly one case label"⟩

/-- The shop that a section sets up and what was not understood in it, or why it sets up none. -/
def surveySection (catalog : Catalog) (settings : Settings) :
    SwitchSection → Except Diagnostic (Shop × List Diagnostic)
  | .mk labels body =>
    (shopOfLabels settings labels).map fun id => (Walk.mk catalog settings id).run body

/-! ### The outcome -/

/-- What a survey found: the shops, and diagnostics in the order of the procedure. -/
structure Outcome where
  directory : Directory
  diagnostics : List Diagnostic

namespace Outcome

/-- Nothing found. -/
def empty : Outcome := ⟨.empty, []⟩

/-- How many diagnostics are of a severity. -/
def count (outcome : Outcome) (severity : Severity) : Nat :=
  outcome.diagnostics.countP fun diagnostic => diagnostic.severity = severity

/-- Whether a diagnostic is an error. -/
def hasErrors (outcome : Outcome) : Bool := 0 < outcome.count .error

/-- The diagnostic for a shop whose number is taken. -/
def duplicate (shop : Shop) : Diagnostic :=
  ⟨.duplicateShop, some shop.id, "case " ++ toString shop.id,
    "shop already defined; dropping " ++ toString shop.items.length ++ " later items"⟩

/-- The outcome after one more section. -/
def add (outcome : Outcome) : Except Diagnostic (Shop × List Diagnostic) → Outcome
  | .error skipped => { outcome with diagnostics := outcome.diagnostics ++ [skipped] }
  | .ok (shop, notes) =>
    match outcome.directory.add? shop with
    | some directory => ⟨directory, outcome.diagnostics ++ notes⟩
    | none =>
      { outcome with diagnostics := outcome.diagnostics ++ notes ++ [duplicate shop] }

end Outcome

/-- The diagnostic for a procedure without shops. -/
def noDispatch : Diagnostic :=
  ⟨.noDispatchSwitch, none, "", "procedure has no top-level switch statement"⟩

/-- Surveys a setup procedure with a catalog of its own. -/
def surveyWith (catalog : Catalog) (settings : Settings) (body : List Stmt) : Outcome :=
  match dispatch? body with
  | none => ⟨.empty, [noDispatch]⟩
  | some sections => (sections.map (surveySection catalog settings)).foldl Outcome.add .empty

/-- Surveys a setup procedure. -/
def survey (settings : Settings) (body : List Stmt) : Outcome :=
  surveyWith builtinCatalog settings body

end Storefront.Survey
