import Storefront.Script.Token

/-!
Expressions of setup scripts, their direct parts, and how they are written. Parentheses are kept in
the tree, so that writing an expression needs no knowledge of precedence.
-/

namespace Storefront.Script

open Storefront.Number Storefront.Text

/-- An expression. -/
inductive Expr where
  | ident (name : String)
  | int (value : Int)
  | float (value : Double)
  | str (value : String)
  | char (value : Char)
  | bool (value : Bool)
  | null
  /-- A named part of a value, `target.name`. -/
  | member (target : Expr) (name : String)
  /-- An element of a value, `target[args]`. -/
  | index (target : Expr) (args : List Expr)
  /-- A call. A method is called through a `member`. -/
  | call (callee : Expr) (args : List Expr)
  | unary (op : UnaryOp) (operand : Expr)
  | binary (op : BinaryOp) (left right : Expr)
  | paren (inner : Expr)
  | cast (type : String) (inner : Expr)
  /-- An assignment; with an operator, one such as `target += value`. -/
  | assign (op : Option BinaryOp) (target value : Expr)
  | conditional (condition whenTrue whenFalse : Expr)
  | create (type : String) (args : List Expr)
  deriving Repr, Inhabited

namespace Expr

/-! ### Parts -/

/-- The value of an integer literal. -/
def asInt : Expr → Option Int
  | int value => some value
  | _ => none

/-- The name that an expression consists of. -/
def asIdent : Expr → Option String
  | ident name => some name
  | _ => none

theorem asIdent_eq_some_iff {expr : Expr} {name : String} :
    expr.asIdent = some name ↔ expr = ident name := by
  cases expr <;> simp [asIdent]

/-- The expression within all parentheses around it. -/
def stripParens : Expr → Expr
  | paren inner => inner.stripParens
  | expr => expr

/-- The direct parts of an expression, in the order in which they are written. -/
def children : Expr → List Expr
  | ident _ | int _ | float _ | str _ | char _ | bool _ | null => []
  | member target _ => [target]
  | index target args => target :: args
  | call callee args => callee :: args
  | unary _ operand => [operand]
  | binary _ left right => [left, right]
  | paren inner => [inner]
  | cast _ inner => [inner]
  | assign _ target value => [target, value]
  | conditional condition whenTrue whenFalse => [condition, whenTrue, whenFalse]
  | create _ args => args

@[simp] theorem stripParens_paren (inner : Expr) :
    (paren inner).stripParens = inner.stripParens := rfl

theorem stripParens_stripParens (expr : Expr) :
    expr.stripParens.stripParens = expr.stripParens := by
  fun_induction stripParens expr with
  | case1 inner inductionHypothesis => exact inductionHypothesis
  | case2 expr notParen =>
    unfold stripParens
    split
    · next inner => exact absurd rfl (notParen inner)
    · rfl

/-! ### Text -/

mutual

/-- An expression as a script writes it. -/
def text : Expr → String
  | ident name => name
  | int value => toString value
  | float value => value.text .plain
  | str value => quoted value
  | char value => "'" ++ escapedAscii value ++ "'"
  | bool value => if value then "true" else "false"
  | null => "null"
  | member target name => target.text ++ "." ++ name
  | index target args => target.text ++ "[" ++ ", ".intercalate (texts args) ++ "]"
  | call callee args => callee.text ++ "(" ++ ", ".intercalate (texts args) ++ ")"
  | unary op operand =>
    if op.followsOperand then operand.text ++ op.symbol else op.symbol ++ operand.text
  | binary op left right => left.text ++ " " ++ op.symbol ++ " " ++ right.text
  | paren inner => "(" ++ inner.text ++ ")"
  | cast type inner => "(" ++ type ++ ")" ++ inner.text
  | assign none target value => target.text ++ " = " ++ value.text
  | assign (some op) target value => target.text ++ " " ++ op.symbol ++ "= " ++ value.text
  | conditional condition whenTrue whenFalse =>
    condition.text ++ " ? " ++ whenTrue.text ++ " : " ++ whenFalse.text
  | create type args => "new " ++ type ++ "(" ++ ", ".intercalate (texts args) ++ ")"

/-- The texts of expressions. -/
def texts : List Expr → List String
  | [] => []
  | expr :: rest => expr.text :: texts rest

end

theorem texts_eq_map (exprs : List Expr) : texts exprs = exprs.map text := by
  induction exprs with
  | nil => rfl
  | cons expr rest inductionHypothesis => rw [texts, inductionHypothesis, List.map_cons]

/-- Expressions with commas between them. -/
def listText (exprs : List Expr) : String := ", ".intercalate (texts exprs)

end Expr

end Storefront.Script
