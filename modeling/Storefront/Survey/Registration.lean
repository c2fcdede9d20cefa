import Storefront.Script.Stmt
import Storefront.Survey.Settings

/-!
Registrations: the calls in an expression that put an item on offer.
-/

namespace Storefront.Survey

open Storefront.Script

/-- The variable that gives the place of a slot, alone or counted up afterwards. -/
def slotVariable? : List Expr → Option String
  | [.unary .postInc operand] => operand.asIdent
  | [place] => place.asIdent
  | _ => none

/-- The item that an expression itself registers: `array[num].SetDefaults(id)` or
`array[num++].SetDefaults(id)` with the names of the settings and a literal id. -/
def registered? (settings : Settings) : Expr → Option Int
  | .call (.member (.index array place) method) [id] =>
    if method = settings.registerMethod && array.asIdent = some settings.slotArray &&
        slotVariable? place = some settings.slotIndex then
      id.asInt
    else none
  | _ => none

mutual

/-- The items that an expression and its parts register, in the order in which they are written. A
registration is not searched for others. -/
def registrations (settings : Settings) (expr : Expr) : List Int :=
  match registered? settings expr with
  | some id => [id]
  | none =>
    match expr with
    | .ident _ | .int _ | .float _ | .str _ | .char _ | .bool _ | .null => []
    | .member target _ => registrations settings target
    | .index target args =>
      registrations settings target ++ registrationsOfAll settings args
    | .call callee args =>
      registrations settings callee ++ registrationsOfAll settings args
    | .unary _ operand => registrations settings operand
    | .binary _ left right => registrations settings left ++ registrations settings right
    | .paren inner => registrations settings inner
    | .cast _ inner => registrations settings inner
    | .assign _ target value => registrations settings target ++ registrations settings value
    | .conditional condition whenTrue whenFalse =>
      registrations settings condition ++ registrations settings whenTrue ++
        registrations settings whenFalse
    | .create _ args => registrationsOfAll settings args

/-- The items that expressions register. -/
def registrationsOfAll (settings : Settings) : List Expr → List Int
  | [] => []
  | expr :: rest => registrations settings expr ++ registrationsOfAll settings rest

end

theorem registrationsOfAll_eq_flatMap (settings : Settings) (exprs : List Expr) :
    registrationsOfAll settings exprs = exprs.flatMap (registrations settings) := by
  induction exprs with
  | nil => rfl
  | cons expr rest inductionHypothesis =>
    rw [registrationsOfAll, inductionHypothesis, List.flatMap_cons]

/-- An expression that registers nothing itself registers what its parts do. -/
theorem registrations_of_registered?_eq_none {settings : Settings} {expr : Expr}
    (plain : registered? settings expr = none) :
    registrations settings expr = expr.children.flatMap (registrations settings) := by
  unfold registrations
  rw [plain]
  cases expr <;>
    simp [Expr.children, registrationsOfAll_eq_flatMap, List.flatMap_cons, List.append_assoc]

/-- The items that a declaration registers. -/
def registrationsOfDecl (settings : Settings) (decl : LocalDecl) : List Int :=
  (decl.vars.filterMap Declarator.init).flatMap (registrations settings)

end Storefront.Survey
