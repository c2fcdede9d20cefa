import Storefront.Script.Stmt
import Storefront.Survey.Settings

/-!
Loops that stand for ranges of numbers: a loop that counts from one literal to another, and a loop
that fills the slots of a shop with the items up to a literal.
-/

namespace Storefront.Survey

open Storefront.Script

/-! ### Ranges -/

/-- The whole numbers from a first one to a last one, which belongs to them if they are closed. -/
structure Range where
  start : Int
  stop : Int
  closed : Bool
  deriving DecidableEq, Repr

namespace Range

/-- How many numbers a range has; not positive when it has none. -/
def count (range : Range) : Int := range.stop - range.start + if range.closed then 1 else 0

/-- The numbers of a range, ascending. -/
def toList (range : Range) : List Int :=
  (List.range range.count.toNat).map fun (offset : Nat) => range.start + offset

@[simp] theorem length_toList (range : Range) : range.toList.length = range.count.toNat := by
  simp [toList]

end Range

/-! ### Counting loops -/

/-- What a `for` loop is. -/
inductive LoopShape where
  /-- The loop counts a variable through a range. -/
  | counting (name : String) (range : Range)
  /-- The loop counts, but one of its bounds is no literal. -/
  | malformed (reason : String)
  | unrecognized
  deriving DecidableEq, Repr

/-- The variable that a loop declares, and its first value. -/
def loopVariable? : Option ForInit → Option Declarator
  | some (.decl ⟨_, [declarator]⟩) => some declarator
  | _ => none

/-- The bound that a condition sets to a variable, and whether the variable may reach it. -/
def loopBound? (name : String) : Option Expr → Option (Expr × Bool)
  | some (.binary .lt left right) =>
    if left.asIdent = some name then some (right, false) else none
  | some (.binary .le left right) =>
    if left.asIdent = some name then some (right, true) else none
  | _ => none

/-- Whether the step of a loop counts a variable up by one. -/
def countsUp (name : String) : List Expr → Bool
  | [.unary .postInc operand] => operand.asIdent = some name
  | [.unary .preInc operand] => operand.asIdent = some name
  | [.assign (some .add) target value] => target.asIdent = some name && value.asInt = some 1
  | _ => false

/-- Finds out what a `for` loop is from its head. -/
def loopShape (init : Option ForInit) (condition : Option Expr) (step : List Expr) :
    LoopShape :=
  match loopVariable? init with
  | none => .unrecognized
  | some declarator =>
    match loopBound? declarator.name condition with
    | none => .unrecognized
    | some (bound, closed) =>
      if countsUp declarator.name step then
        match declarator.init.bind Expr.asInt, bound.asInt with
        | none, _ => .malformed "loop variable is not initialized with an integer literal"
        | some _, none => .malformed "loop bound is not an integer literal"
        | some start, some stop => .counting declarator.name ⟨start, stop, closed⟩
      else .unrecognized

/-! ### Filling loops -/

/-- The variable and the bound of a loop that fills slots,
`while (variable <= bound && num < capacity)`. -/
def fillingGuard? (settings : Settings) : Expr → Option (String × Expr)
  | .binary .and (.binary .le counted bound) (.binary .lt slot capacity) =>
    if slot.asIdent = some settings.slotIndex && capacity.asInt = some settings.slotCapacity then
      counted.asIdent.map fun name => (name, bound)
    else none
  | _ => none

/-- The declaration of a variable on its own. -/
def declares? (name : String) : Stmt → Option Declarator
  | .decl ⟨_, [declarator]⟩ => if declarator.name = name then some declarator else none
  | _ => none

/-- The literal first value of a variable, if exactly one of the statements declares it on its
own. -/
def initialValue? (name : String) (before : List Stmt) : Option Int :=
  match before.filterMap (declares? name) with
  | [declarator] => declarator.init.bind Expr.asInt
  | _ => none

end Storefront.Survey
