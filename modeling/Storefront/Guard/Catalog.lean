import Storefront.Guard.Condition
import Storefront.Pattern.Helpers

/-!
Catalogs: ordered tables of the guards that are understood. An entry says by a pattern which
expressions it accepts, and how the captures of a match become the numbers of a condition. The first
entry that accepts an expression and finds its numbers counts.
-/

namespace Storefront.Guard

open Storefront.Number Storefront.Script

/-- How the captures of a match become the numbers of a condition. -/
inductive Extraction where
  | nothing
  /-- The first capture is an integer literal. -/
  | integer
  /-- The first two captures are integer literals. -/
  | integerPair
  /-- The first capture is a real literal, a part of the whole; from `1` on it is the whole. -/
  | percent
  deriving DecidableEq, Repr

/-- A guard that is understood: what it means, what it looks like, and where its numbers are. -/
structure Entry where
  tag : Tag
  pattern : String
  extraction : Extraction
  deriving DecidableEq, Repr

/-- The integer literal among captures at a place. -/
def integerAt? (captures : List Part) (place : Nat) : Option Int :=
  match captures[place]? with
  | some (.expr expr) => expr.asInt
  | _ => none

/-- A hundred, as a number of 32 bits. -/
def hundred : Single := .ofNat 100

/-- How full the bestiary is, in whole percent, from a part of the whole. -/
def percentCondition (part : Double) : Condition :=
  let part : Single := part.convert .single
  if part.below (.ofNat 1) then
    .withParam .bestiaryFilledPercent
      ((part * hundred).truncateWithin (-Int.pow 2 63) (Int.pow 2 63 - 1))
  else .plain .bestiaryFull

/-- The condition of a match, if its captures are as the entry needs them. -/
def Entry.condition? (entry : Entry) (captures : List Part) : Option Condition :=
  match entry.extraction with
  | .nothing => some (.plain entry.tag)
  | .integer => (integerAt? captures 0).map (.withParam entry.tag)
  | .integerPair => do
    let first ← integerAt? captures 0
    let second ← integerAt? captures 1
    some (.withParams entry.tag first second)
  | .percent =>
    match captures with
    | .expr (.float part) :: _ => some (percentCondition part)
    | _ => none

/-- An entry with its pattern compiled. -/
structure Shape where
  entry : Entry
  pattern : Pattern
  deriving Repr

/-- The condition of an expression that a shape accepts. -/
def Shape.accept? (shape : Shape) (expr : Expr) : Option Condition :=
  (shape.pattern.matchExpr expr).bind shape.entry.condition?

/-- The shapes that are understood, in the order in which they are tried. -/
abbrev Catalog := List Shape

namespace Catalog

/-- Compiles entries. One whose pattern does not compile is left out. -/
def compile (helpers : Pattern.Helpers) (entries : List Entry) : Catalog :=
  entries.filterMap fun entry =>
    match Pattern.compile helpers entry.pattern with
    | .ok pattern => some ⟨entry, pattern⟩
    | .error _ => none

/-- The condition of the first shape that accepts an expression as it is written. -/
def lookup (catalog : Catalog) (expr : Expr) : Option Condition :=
  catalog.findSome? fun shape => shape.accept? expr

/-- What a guard asks for, and whether it asks for the opposite: a leading `!` is taken off together
with the parentheses under it. -/
def unnegated : Expr → Expr × Bool
  | .unary .not operand => (operand.stripParens, true)
  | expr => (expr, false)

/-- The condition of a guard, none if no shape accepts it. It fails if the condition would have to
be negated and cannot be. -/
def recognize (catalog : Catalog) (guard : Expr) : Except NoComplement (Option Condition) :=
  let (target, negated) := unnegated guard
  match catalog.lookup target with
  | none => .ok none
  | some condition => if negated then condition.invert.map some else .ok (some condition)

section

variable {catalog : Catalog} {guard target : Expr} {negated : Bool}

/-- A guard is not understood if no shape accepts what is left of it. -/
theorem recognize_of_lookup_eq_none (remains : unnegated guard = (target, negated))
    (absent : catalog.lookup target = none) : catalog.recognize guard = .ok none := by
  rw [recognize, remains]
  dsimp only
  rw [absent]

/-- A guard has the condition of what is left of it, or the opposite one. -/
theorem recognize_of_lookup {condition : Condition} (remains : unnegated guard = (target, negated))
    (found : catalog.lookup target = some condition) :
    catalog.recognize guard =
      if negated then condition.invert.map some else .ok (some condition) := by
  rw [recognize, remains]
  dsimp only
  rw [found]

end

end Catalog

end Storefront.Guard
