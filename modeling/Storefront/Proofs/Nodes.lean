import Storefront.Script.Expr

/-!
The nodes of an expression, and how tightly its parts hold together. An expression is grouped when
no part of it would fall apart if it were written without parentheses: the part of an operator holds
together at least as tightly as the operator, and more tightly on the side where equal operators do
not group.
-/

namespace Storefront.Script.Expr

/-! ### Nodes -/

mutual

/-- An expression and all expressions within it. -/
def nodes : Expr → List Expr
  | ident name => [ident name]
  | int value => [int value]
  | float value => [float value]
  | str value => [str value]
  | char value => [char value]
  | bool value => [bool value]
  | null => [null]
  | member target name => member target name :: target.nodes
  | index target args => index target args :: (target.nodes ++ nodesOf args)
  | call callee args => call callee args :: (callee.nodes ++ nodesOf args)
  | unary op operand => unary op operand :: operand.nodes
  | binary op left right => binary op left right :: (left.nodes ++ right.nodes)
  | paren inner => paren inner :: inner.nodes
  | cast type inner => cast type inner :: inner.nodes
  | assign op target value => assign op target value :: (target.nodes ++ value.nodes)
  | conditional condition whenTrue whenFalse =>
    conditional condition whenTrue whenFalse ::
      (condition.nodes ++ (whenTrue.nodes ++ whenFalse.nodes))
  | create type args => create type args :: nodesOf args

/-- The nodes of expressions one after the other. -/
def nodesOf : List Expr → List Expr
  | [] => []
  | expr :: rest => expr.nodes ++ nodesOf rest

end

/-- A condition holds at every node of an expression. -/
def Each (condition : Expr → Prop) (expr : Expr) : Prop := ∀ node ∈ expr.nodes, condition node

/-- A condition holds at every node of some expressions. -/
def EachOf (condition : Expr → Prop) (exprs : List Expr) : Prop :=
  ∀ node ∈ nodesOf exprs, condition node

instance (condition : Expr → Prop) [DecidablePred condition] (expr : Expr) :
    Decidable (expr.Each condition) :=
  inferInstanceAs (Decidable (∀ node ∈ expr.nodes, condition node))

section Each

variable {condition : Expr → Prop}

theorem each_leaf {expr : Expr} (alone : expr.nodes = [expr]) :
    expr.Each condition ↔ condition expr := by
  rw [Each, alone]
  exact List.forall_mem_singleton

theorem each_member {target : Expr} {name : String} : (member target name).Each condition ↔
    condition (member target name) ∧ target.Each condition := List.forall_mem_cons

theorem each_index {target : Expr} {args : List Expr} : (index target args).Each condition ↔
    condition (index target args) ∧ target.Each condition ∧ EachOf condition args :=
  List.forall_mem_cons.trans (and_congr_right' List.forall_mem_append)

theorem each_call {callee : Expr} {args : List Expr} : (call callee args).Each condition ↔
    condition (call callee args) ∧ callee.Each condition ∧ EachOf condition args :=
  List.forall_mem_cons.trans (and_congr_right' List.forall_mem_append)

theorem each_unary {op : UnaryOp} {operand : Expr} : (unary op operand).Each condition ↔
    condition (unary op operand) ∧ operand.Each condition := List.forall_mem_cons

theorem each_binary {op : BinaryOp} {left right : Expr} : (binary op left right).Each condition ↔
    condition (binary op left right) ∧ left.Each condition ∧ right.Each condition :=
  List.forall_mem_cons.trans (and_congr_right' List.forall_mem_append)

theorem each_paren {inner : Expr} : (paren inner).Each condition ↔
    condition (paren inner) ∧ inner.Each condition := List.forall_mem_cons

theorem each_cast {type : String} {inner : Expr} : (cast type inner).Each condition ↔
    condition (cast type inner) ∧ inner.Each condition := List.forall_mem_cons

theorem each_assign {op : Option BinaryOp} {target value : Expr} :
    (assign op target value).Each condition ↔
      condition (assign op target value) ∧ target.Each condition ∧ value.Each condition :=
  List.forall_mem_cons.trans (and_congr_right' List.forall_mem_append)

theorem each_conditional {guard whenTrue whenFalse : Expr} :
    (conditional guard whenTrue whenFalse).Each condition ↔
      condition (conditional guard whenTrue whenFalse) ∧
        guard.Each condition ∧ whenTrue.Each condition ∧ whenFalse.Each condition :=
  List.forall_mem_cons.trans (and_congr_right'
    (List.forall_mem_append.trans (and_congr_right' List.forall_mem_append)))

theorem each_create {type : String} {args : List Expr} : (create type args).Each condition ↔
    condition (create type args) ∧ EachOf condition args := List.forall_mem_cons

theorem eachOf_nil : EachOf condition [] := fun _ member => by cases member

theorem eachOf_cons {expr : Expr} {rest : List Expr} : EachOf condition (expr :: rest) ↔
    expr.Each condition ∧ EachOf condition rest := List.forall_mem_append

end Each

/-! ### Grouping -/

/-- The tightness of operators in front of an operand, and of casts. -/
def leadingTightness : Nat := 12

/-- The tightness of operands: literals, names, parentheses, and whatever is applied behind one. -/
def operandTightness : Nat := 13

/-- How tightly the outermost parts of an expression hold together: an assignment least, then a
conditional, then the operators on two operands by their precedence, then those on one. -/
def tightness : Expr → Nat
  | assign _ _ _ => 0
  | conditional _ _ _ => 1
  | binary op _ _ => op.precedence + 1
  | unary op _ => if op.followsOperand then operandTightness else leadingTightness
  | cast _ _ => leadingTightness
  | _ => operandTightness

/-- Whether the direct parts of an expression hold together tightly enough to stand in it as they
are. What stands between brackets always does. -/
def isGrouped : Expr → Bool
  | binary op left right =>
    decide (op.precedence + 1 ≤ left.tightness) && decide (op.precedence + 1 < right.tightness)
  | unary op operand => decide ((unary op operand).tightness ≤ operand.tightness)
  | cast _ inner => decide (leadingTightness ≤ inner.tightness)
  | member target _ | index target _ | call target _ =>
    decide (operandTightness ≤ target.tightness)
  | conditional condition _ whenFalse =>
    decide (1 < condition.tightness) && decide (1 ≤ whenFalse.tightness)
  | assign _ target _ => decide (0 < target.tightness)
  | _ => true

/-- Every operator of an expression has the operands that its precedence gives it. -/
def Grouped (expr : Expr) : Prop := expr.Each fun node => node.isGrouped = true

instance (expr : Expr) : Decidable expr.Grouped :=
  inferInstanceAs (Decidable (expr.Each fun node => node.isGrouped = true))

end Storefront.Script.Expr

/-- No operator on two operands is as tight as one on a single operand. -/
theorem Storefront.Script.BinaryOp.precedence_le (op : Storefront.Script.BinaryOp) :
    op.precedence ≤ 10 := by
  cases op <;> decide
