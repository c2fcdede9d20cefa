import Storefront.Guard.Builtin
import Storefront.Guard.Conjunction
import Storefront.Stock.Shop
import Storefront.Survey.Diagnostic
import Storefront.Survey.Loop
import Storefront.Survey.Registration

/-!
Walking the statements of one shop. The walker carries a stack of the conditions that hold where it
is. A branch, a label of a switch and a scan of the inventory push conditions for the statements
within them; afterwards the stack is cut back to the depth that it had before. An item is offered
under the conditions on the stack when it is registered.
-/

namespace Storefront.Survey

open Storefront.Guard Storefront.Script Storefront.Stock

/-! ### The walker -/

/-- A walk under way: the shop so far, the stack of conditions, outermost first, and what was not
understood so far. -/
structure Walker where
  shop : Shop
  conditions : List Condition
  notes : List Diagnostic
  deriving DecidableEq, Repr

namespace Walker

/-- Offers an item under the conditions on the stack. -/
def register (walker : Walker) (id : Int) : Walker :=
  { walker with shop := walker.shop.addItem ⟨id, walker.conditions⟩ }

/-- Offers items one after the other. -/
def registerAll (walker : Walker) (ids : List Int) : Walker := ids.foldl register walker

/-- Notes what was not understood. -/
def note (walker : Walker) (diagnostics : List Diagnostic) : Walker :=
  { walker with notes := walker.notes ++ diagnostics }

/-- Offers the items that a loop stands for, or notes why it stands for none. -/
def unroll (walker : Walker) : Except Diagnostic (List Int) → Walker
  | .ok ids => walker.registerAll ids
  | .error diagnostic => walker.note [diagnostic]

/-- Visits with conditions pushed, and cuts the stack back to the depth that it had before. -/
def within (conditions : List Condition) (visit : Walker → Walker) (walker : Walker) : Walker :=
  let inside := visit { walker with conditions := walker.conditions ++ conditions }
  { inside with conditions := inside.conditions.take walker.conditions.length }

end Walker

/-! ### Parts of the walk without statements -/

/-- What stays the same during a walk. -/
structure Walk where
  catalog : Catalog
  settings : Settings
  shop : Int

namespace Walk

/-- A diagnostic about this shop. -/
def diagnostic (walk : Walk) (kind : DiagnosticKind) (construct message : String) : Diagnostic :=
  ⟨kind, some walk.shop, construct, message⟩

/-- The kind of the diagnostic for a tag that cannot be negated. A partner whose code disagrees is a
fault of the table, not of the script. -/
def inversionKind (missing : NoComplement) : DiagnosticKind :=
  match missing.tag.partner? with
  | none => .failedInversion
  | some _ => .contractViolation

/-- The diagnostic for a condition that cannot be negated. -/
def noteInversion (walk : Walk) (construct : String) (missing : NoComplement) : Diagnostic :=
  walk.diagnostic (inversionKind missing) construct missing.message

/-- The diagnostic for a part of a guard that would have to be negated and cannot be, if that is why
the guard is not understood. -/
def noteMissing (walk : Walk) (construct : String) (fault : GuardFault) : List Diagnostic :=
  (fault.missing?.map (walk.noteInversion construct)).toList

/-- The text that stands for a branch. -/
def branchText (condition : Expr) : String := "if (" ++ condition.text ++ ")"

/-- The diagnostics for a branch whose guard is not understood. -/
def noteGuard (walk : Walk) (condition : Expr) (fault : GuardFault) : List Diagnostic :=
  walk.noteMissing (branchText condition) fault ++
    [walk.diagnostic .unrecognizedGuard (branchText condition)
      "guard matches no known condition; body visited without it"]

/-- The conditions of the branch that is taken when these do not hold; those that cannot be negated
are left out. -/
def inverted (conditions : List Condition) : List Condition :=
  conditions.filterMap fun condition => condition.invert.toOption

/-- The condition that cannot be negated, if it cannot. -/
def missing? (condition : Condition) : Option NoComplement :=
  match condition.invert with
  | .ok _ => none
  | .error missing => some missing

/-- The diagnostics for the conditions that cannot be negated. -/
def noteInverted (walk : Walk) (condition : Expr) (conditions : List Condition) :
    List Diagnostic :=
  (conditions.filterMap missing?).map (walk.noteInversion ("else of " ++ branchText condition))

/-- The items of a range, unless there are too many. -/
def rangeItems (walk : Walk) (stmt : Stmt) (range : Range) : Except Diagnostic (List Int) :=
  if (walk.settings.maxUnroll : Int) < range.count then
    .error (walk.diagnostic .malformedBound stmt.header ("range of " ++ toString range.count ++
      " exceeds the unroll limit of " ++ toString walk.settings.maxUnroll))
  else .ok range.toList

/-- The items of a loop with a condition alone. Its variable must be declared before it. -/
def filledItems (walk : Walk) (before : List Stmt) (stmt : Stmt) (condition : Expr) :
    Except Diagnostic (List Int) :=
  match fillingGuard? walk.settings condition with
  | none =>
    .error (walk.diagnostic .unrecognizedLoop stmt.header
      "while loop is not an accumulation loop; skipped")
  | some (name, bound) =>
    match bound.asInt, initialValue? name before with
    | none, _ =>
      .error (walk.diagnostic .malformedBound stmt.header
        "upper bound is not an integer literal")
    | some _, none =>
      .error (walk.diagnostic .malformedBound stmt.header
        ("no single `" ++ name ++ "` declaration with an integer literal initializer"))
    | some stop, some start => walk.rangeItems stmt ⟨start, stop, true⟩

/-- The guard that a label of a nested switch stands for. -/
def labelGuard (scrutinee value : Expr) : Expr := .binary .eq scrutinee value

/-- What the label of a nested switch leads to: the conditions under which its section is entered,
or the diagnostics if they are not understood. -/
def label (walk : Walk) (scrutinee value : Expr) : Except (List Diagnostic) (List Condition) :=
  if value.asInt.isNone then
    .error [walk.diagnostic .unrecognizedLabel ("case " ++ value.text)
      "case label is not an integer literal"]
  else
    (decompose walk.catalog (labelGuard scrutinee value)).mapError fun fault =>
      walk.noteMissing ("case " ++ value.text) fault ++
        [walk.diagnostic .unrecognizedLabel (labelGuard scrutinee value).text
          "case matches no known condition"]

/-- Visits a section under the conditions of a label, if they are understood. The flag tells whether
the section has been visited. -/
def enterLabel (walk : Walk) (scrutinee : Expr) (visit : Walker → Walker) :
    Walker × Bool → Expr → Walker × Bool
  | (walker, visited), value =>
    match walk.label scrutinee value with
    | .ok conditions => (walker.within conditions visit, true)
    | .error diagnostics => (walker.note diagnostics, visited)

/-- Visits a section once for each label that is understood, and once without conditions if none
is. -/
def enterSection (walk : Walk) (scrutinee : Expr) (visit : Walker → Walker) (values : List Expr)
    (walker : Walker) : Walker :=
  match values.foldl (walk.enterLabel scrutinee visit) (walker, false) with
  | (walker, true) => walker
  | (walker, false) => visit walker

/-! ### Scans of the inventory -/

/-- The pattern of a test for an item in a slot of the inventory. -/
def inventoryCheckText : String :=
  "(eq (member (index (member #local_player :inventory) (ident $_)) :type) $(int _))"

/-- The compiled pattern of a test for an item in a slot. -/
def inventoryCheck? : Option Pattern :=
  (Pattern.compile builtinHelpers inventoryCheckText).toOption

/-- The item that a condition tests for in the slot of a variable. -/
def checkedItem? (name : String) (condition : Expr) : Option Int :=
  match inventoryCheck?.bind fun pattern => pattern.matchExpr condition with
  | some (.name slot :: .expr item :: _) => if slot = name then item.asInt else none
  | _ => none

/-- The condition that the player carries an item. -/
def carries (item : Int) : Condition := .withParam .playerCarriesItem item

/-! ### Statements -/

mutual

/-- Visits a statement. `before` holds the statements before it in the same list, latest first. -/
def visit (walk : Walk) (before : List Stmt) (stmt : Stmt) (walker : Walker) : Walker :=
  match stmt with
  | .block body => walk.visitAll [] body walker
  | .decl declared => walker.registerAll (registrationsOfDecl walk.settings declared)
  | .expr evaluated => walker.registerAll (registrations walk.settings evaluated)
  | .branch condition whenTrue whenFalse =>
    match decompose walk.catalog condition with
    | .error fault =>
      walk.visitOtherwise id whenFalse
        (walk.visit [] whenTrue (walker.note (walk.noteGuard condition fault)))
    | .ok conditions =>
      walk.visitOtherwise
        (fun inside walker =>
          (walker.note (walk.noteInverted condition conditions)).within (inverted conditions)
            inside)
        whenFalse (walker.within conditions (walk.visit [] whenTrue))
  | .switch scrutinee sections => walk.visitSections scrutinee sections walker
  | .forLoop init condition step body =>
    match loopShape init condition step with
    | .unrecognized =>
      walker.note [walk.diagnostic .unrecognizedLoop (Stmt.forLoop init condition step body).header
        "loop is not a counting loop over literal bounds; skipped"]
    | .malformed reason =>
      walker.note [walk.diagnostic .malformedBound (Stmt.forLoop init condition step body).header
        reason]
    | .counting name range =>
      if range.start = 0 && walk.settings.isInventoryBound range.stop then
        match walk.visitCheck name body with
        | some visit => visit walker
        | none =>
          walker.note [walk.diagnostic .unrecognizedLoop
            (Stmt.forLoop init condition step body).header
            ("inventory scan has no `inventory[" ++ name ++ "].type == <id>` check")]
      else walker.unroll (walk.rangeItems (.forLoop init condition step body) range)
  | .whileLoop condition body =>
    walker.unroll (walk.filledItems before (.whileLoop condition body) condition)
  | .doWhile body condition =>
    (walk.visit [] body walker).registerAll (registrations walk.settings condition)
  | .foreach _ _ iterated body =>
    walk.visit [] body (walker.registerAll (registrations walk.settings iterated))
  | .returnValue (some value) => walker.registerAll (registrations walk.settings value)
  | .returnValue none | .breakOut | .continueLoop | .empty => walker

/-- Visits the other side of a branch, if there is one, in the way that is given. -/
def visitOtherwise (walk : Walk) (enter : (Walker → Walker) → Walker → Walker)
    (stmt? : Option Stmt) (walker : Walker) : Walker :=
  match stmt? with
  | none => walker
  | some whenFalse => enter (walk.visit [] whenFalse) walker

/-- Visits statements one after the other. -/
def visitAll (walk : Walk) (before stmts : List Stmt) (walker : Walker) : Walker :=
  match stmts with
  | [] => walker
  | first :: rest => walk.visitAll (first :: before) rest (walk.visit before first walker)

/-- Visits the sections of a nested switch. -/
def visitSections (walk : Walk) (scrutinee : Expr) (sections : List SwitchSection)
    (walker : Walker) : Walker :=
  match sections with
  | [] => walker
  | .mk labels body :: rest =>
    walk.visitSections scrutinee rest
      (walk.enterSection scrutinee (walk.visitAll [] body) (labels.filterMap CaseLabel.value?)
        walker)

/-- How to visit what the first test for an item in the slot of a variable guards, under the
condition that the player carries the item. A statement is searched before the statements within
it. -/
def visitCheck (walk : Walk) (name : String) : Stmt → Option (Walker → Walker)
  | .block body => walk.visitCheckAll name body
  | .branch condition whenTrue whenFalse =>
    match checkedItem? name condition with
    | some item => some (Walker.within [carries item] (walk.visit [] whenTrue))
    | none =>
      match walk.visitCheck name whenTrue with
      | some visit => some visit
      | none => walk.visitCheckOtherwise name whenFalse
  | .switch _ sections => walk.visitCheckSections name sections
  | .forLoop _ _ _ body => walk.visitCheck name body
  | .whileLoop _ body => walk.visitCheck name body
  | .doWhile body _ => walk.visitCheck name body
  | .foreach _ _ _ body => walk.visitCheck name body
  | .decl _ | .expr _ | .breakOut | .continueLoop | .returnValue _ | .empty => none

/-- Searches the other side of a branch. -/
def visitCheckOtherwise (walk : Walk) (name : String) : Option Stmt → Option (Walker → Walker)
  | none => none
  | some whenFalse => walk.visitCheck name whenFalse

/-- Searches statements one after the other. -/
def visitCheckAll (walk : Walk) (name : String) : List Stmt → Option (Walker → Walker)
  | [] => none
  | first :: rest =>
    match walk.visitCheck name first with
    | some visit => some visit
    | none => walk.visitCheckAll name rest

/-- Searches the sections of a switch one after the other. -/
def visitCheckSections (walk : Walk) (name : String) :
    List SwitchSection → Option (Walker → Walker)
  | [] => none
  | .mk _ body :: rest =>
    match walk.visitCheckAll name body with
    | some visit => some visit
    | none => walk.visitCheckSections name rest

end

/-- The walker before the first statement. -/
def start (walk : Walk) : Walker := ⟨.empty walk.shop, [], []⟩

/-- The shop that statements set up, and what was not understood in them. -/
def run (walk : Walk) (body : List Stmt) : Shop × List Diagnostic :=
  let done := walk.visitAll [] body walk.start
  (done.shop, done.notes)

end Walk

end Storefront.Survey
