import Storefront.Script.Expr

/-!
Statements of setup scripts, and the one line that stands for a statement in messages.
-/

namespace Storefront.Script

/-- A declared variable, perhaps with its first value. -/
structure Declarator where
  name : String
  init : Option Expr
  deriving Repr, Inhabited

/-- Variables declared together, `int a = 1, b`. -/
structure LocalDecl where
  type : String
  vars : List Declarator
  deriving Repr, Inhabited

/-- What a counting loop does first. -/
inductive ForInit where
  | decl (declared : LocalDecl)
  | exprs (listed : List Expr)
  deriving Repr, Inhabited

/-- A label of a switch section. -/
inductive CaseLabel where
  | case (value : Expr)
  | default
  deriving Repr, Inhabited

mutual

/-- A statement. -/
inductive Stmt where
  | block (body : List Stmt)
  | decl (declared : LocalDecl)
  | expr (evaluated : Expr)
  | branch (condition : Expr) (whenTrue : Stmt) (whenFalse : Option Stmt)
  | switch (scrutinee : Expr) (sections : List SwitchSection)
  | forLoop (init : Option ForInit) (condition : Option Expr) (step : List Expr) (body : Stmt)
  | whileLoop (condition : Expr) (body : Stmt)
  | doWhile (body : Stmt) (condition : Expr)
  | foreach (type name : String) (iterated : Expr) (body : Stmt)
  | breakOut
  | continueLoop
  | returnValue (value : Option Expr)
  | empty

/-- The labels of a part of a switch, and the statements they lead to. -/
inductive SwitchSection where
  | mk (labels : List CaseLabel) (body : List Stmt)

end

instance : Inhabited Stmt := ⟨.empty⟩
instance : Inhabited SwitchSection := ⟨.mk [] []⟩

namespace SwitchSection

def labels : SwitchSection → List CaseLabel
  | mk labels _ => labels

def body : SwitchSection → List Stmt
  | mk _ body => body

@[simp] theorem labels_mk (labels : List CaseLabel) (body : List Stmt) :
    (mk labels body).labels = labels := rfl

@[simp] theorem body_mk (labels : List CaseLabel) (body : List Stmt) :
    (mk labels body).body = body := rfl

end SwitchSection

/-- The value of a label; `default` has none. -/
def CaseLabel.value? : CaseLabel → Option Expr
  | case value => some value
  | default => none

/-- The values of a section's labels. -/
def SwitchSection.caseValues (switchSection : SwitchSection) : List Expr :=
  switchSection.labels.filterMap CaseLabel.value?

/-! ### Text -/

/-- A declared variable as a script writes it. -/
def Declarator.text (declarator : Declarator) : String :=
  match declarator.init with
  | some init => declarator.name ++ " = " ++ init.text
  | none => declarator.name

/-- A declaration as a script writes it, without the semicolon. -/
def LocalDecl.text (decl : LocalDecl) : String :=
  decl.type ++ " " ++ ", ".intercalate (decl.vars.map Declarator.text)

/-- What a counting loop does first, as a script writes it. -/
def ForInit.text : ForInit → String
  | .decl declared => declared.text
  | .exprs listed => Expr.listText listed

/-- The line that stands for a statement: its head, without the statements within it. -/
def Stmt.header : Stmt → String
  | block body => "\x7b " ++ toString body.length ++ " statements \x7d"
  | .decl declared => declared.text ++ ";"
  | .expr evaluated => evaluated.text ++ ";"
  | branch condition _ _ => "if (" ++ condition.text ++ ")"
  | switch scrutinee _ => "switch (" ++ scrutinee.text ++ ")"
  | forLoop init condition step _ =>
    "for (" ++ (init.map ForInit.text).getD "" ++ "; " ++ (condition.map Expr.text).getD "" ++
      "; " ++ Expr.listText step ++ ")"
  | whileLoop condition _ => "while (" ++ condition.text ++ ")"
  | doWhile _ condition => "do ... while (" ++ condition.text ++ ");"
  | foreach type name iterated _ =>
    "foreach (" ++ type ++ " " ++ name ++ " in " ++ iterated.text ++ ")"
  | .breakOut => "break;"
  | .continueLoop => "continue;"
  | .returnValue (some value) => "return " ++ value.text ++ ";"
  | .returnValue none => "return;"
  | empty => ";"

end Storefront.Script
