/-!
The operators of setup scripts: their names, their spelling and how tightly they bind.
-/

namespace Storefront.Script

/-! ### Operators on one operand -/

/-- An operator on one operand. -/
inductive UnaryOp where
  | not | neg | plus | bitNot | preInc | preDec | postInc | postDec
  deriving DecidableEq, Repr

namespace UnaryOp

/-- Every operator on one operand. -/
def all : List UnaryOp := [not, neg, plus, bitNot, preInc, preDec, postInc, postDec]

/-- The name, which patterns and serialized trees use. -/
def name : UnaryOp → String
  | not => "not"
  | neg => "neg"
  | plus => "plus"
  | bitNot => "bitnot"
  | preInc => "preinc"
  | preDec => "predec"
  | postInc => "postinc"
  | postDec => "postdec"

/-- The spelling in a script. -/
def symbol : UnaryOp → String
  | not => "!"
  | neg => "-"
  | plus => "+"
  | bitNot => "~"
  | preInc | postInc => "++"
  | preDec | postDec => "--"

/-- Whether the operator follows its operand. -/
def followsOperand : UnaryOp → Bool
  | postInc | postDec => true
  | _ => false

/-- The operator of a name. -/
def ofName? (name : String) : Option UnaryOp := all.find? fun op => op.name == name

theorem mem_all (op : UnaryOp) : op ∈ all := by cases op <;> decide

@[simp] theorem ofName?_name (op : UnaryOp) : ofName? op.name = some op := by
  cases op <;> decide

end UnaryOp

/-! ### Operators on two operands -/

/-- An operator on two operands. -/
inductive BinaryOp where
  | or | and | bitOr | xor | bitAnd
  | eq | ne | lt | le | gt | ge
  | shl | shr | add | sub | mul | div | mod
  deriving DecidableEq, Repr

namespace BinaryOp

/-- Every operator on two operands. -/
def all : List BinaryOp :=
  [or, and, bitOr, xor, bitAnd, eq, ne, lt, le, gt, ge, shl, shr, add, sub, mul, div, mod]

/-- The name, which patterns and serialized trees use. -/
def name : BinaryOp → String
  | or => "or"
  | and => "and"
  | bitOr => "bitor"
  | xor => "xor"
  | bitAnd => "bitand"
  | eq => "eq"
  | ne => "ne"
  | lt => "lt"
  | le => "le"
  | gt => "gt"
  | ge => "ge"
  | shl => "shl"
  | shr => "shr"
  | add => "add"
  | sub => "sub"
  | mul => "mul"
  | div => "div"
  | mod => "mod"

/-- The name of an operator as a message shows it. -/
def title : BinaryOp → String
  | or => "Or"
  | and => "And"
  | bitOr => "BitOr"
  | xor => "Xor"
  | bitAnd => "BitAnd"
  | eq => "Eq"
  | ne => "Ne"
  | lt => "Lt"
  | le => "Le"
  | gt => "Gt"
  | ge => "Ge"
  | shl => "Shl"
  | shr => "Shr"
  | add => "Add"
  | sub => "Sub"
  | mul => "Mul"
  | div => "Div"
  | mod => "Mod"

/-- The spelling in a script. -/
def symbol : BinaryOp → String
  | or => "||"
  | and => "&&"
  | bitOr => "|"
  | xor => "^"
  | bitAnd => "&"
  | eq => "=="
  | ne => "!="
  | lt => "<"
  | le => "<="
  | gt => ">"
  | ge => ">="
  | shl => "<<"
  | shr => ">>"
  | add => "+"
  | sub => "-"
  | mul => "*"
  | div => "/"
  | mod => "%"

/-- How tightly the operator binds: a higher number binds tighter. Equal operators group to the
left. -/
def precedence : BinaryOp → Nat
  | or => 1
  | and => 2
  | bitOr => 3
  | xor => 4
  | bitAnd => 5
  | eq | ne => 6
  | lt | le | gt | ge => 7
  | shl | shr => 8
  | add | sub => 9
  | mul | div | mod => 10

/-- The operator of a name. -/
def ofName? (name : String) : Option BinaryOp := all.find? fun op => op.name == name

theorem mem_all (op : BinaryOp) : op ∈ all := by cases op <;> decide

@[simp] theorem ofName?_name (op : BinaryOp) : ofName? op.name = some op := by
  cases op <;> decide

end BinaryOp

end Storefront.Script
