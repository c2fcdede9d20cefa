import Storefront.Json.Record
import Storefront.Script.Stmt

/-!
Scripts as JSON trees. Every expression and statement is an object that names its kind; operators go
by their names, and what is absent is left out. Trees are read back with some freedom: keys may
stand in any order, unknown ones do not matter, and `null` may stand for what is absent. A tree is
read only if all of it can be and it is no deeper than `Json.depthLimit`.
-/

namespace Storefront.Script

open Storefront.Number

/-! ### Kinds -/

/-- The kinds of expressions. -/
def exprKinds : List String := [
  "ident", "int", "float", "str", "char", "bool", "null", "member", "index", "call", "unary",
  "binary", "paren", "cast", "assign", "conditional", "new"]

/-- The kinds of statements. -/
def stmtKinds : List String := [
  "block", "local", "expr", "if", "switch", "for", "while", "do_while", "foreach", "break",
  "continue", "return", "empty"]

/-- The kinds of what a counting loop does first. -/
def forInitKinds : List String := ["decl", "exprs"]

/-- The kinds of labels. -/
def labelKinds : List String := ["case", "default"]

/-- A variant of a kind with members. -/
def ofKind (kind : String) (members : List (String × Json)) : Json :=
  .obj (("kind", .str kind) :: members)

/-- A member that is left out when it has no value. -/
def presentMember (key : String) : Option Json → List (String × Json)
  | none => []
  | some value => [(key, value)]

/-! ### Writing -/

mutual

/-- The tree of an expression. -/
def Expr.toJson : Expr → Json
  | .ident name => ofKind "ident" [("name", .str name)]
  | .int value => ofKind "int" [("value", .int value)]
  | .float value => ofKind "float" [("value", .float value)]
  | .str value => ofKind "str" [("value", .str value)]
  | .char value => ofKind "char" [("value", .str value.toString)]
  | .bool value => ofKind "bool" [("value", .bool value)]
  | .null => ofKind "null" []
  | .member target name => ofKind "member" [("target", target.toJson), ("name", .str name)]
  | .index target args =>
    ofKind "index" [("target", target.toJson), ("args", .arr (exprsToJson args))]
  | .call callee args =>
    ofKind "call" [("callee", callee.toJson), ("args", .arr (exprsToJson args))]
  | .unary op operand => ofKind "unary" [("op", .str op.name), ("operand", operand.toJson)]
  | .binary op left right =>
    ofKind "binary" [("op", .str op.name), ("left", left.toJson), ("right", right.toJson)]
  | .paren inner => ofKind "paren" [("inner", inner.toJson)]
  | .cast type inner => ofKind "cast" [("ty", .str type), ("inner", inner.toJson)]
  | .assign op target value =>
    ofKind "assign" (presentMember "op" (op.map fun op => .str op.name) ++
      [("target", target.toJson), ("value", value.toJson)])
  | .conditional condition whenTrue whenFalse =>
    ofKind "conditional" [("cond", condition.toJson), ("then", whenTrue.toJson),
      ("otherwise", whenFalse.toJson)]
  | .create type args => ofKind "new" [("ty", .str type), ("args", .arr (exprsToJson args))]

/-- The trees of expressions. -/
def exprsToJson : List Expr → List Json
  | [] => []
  | expr :: rest => expr.toJson :: exprsToJson rest

end

/-- The tree of a declared variable. -/
def Declarator.toJson (declarator : Declarator) : Json :=
  .obj (("name", .str declarator.name) ::
    presentMember "init" (declarator.init.map Expr.toJson))

/-- The members of a declaration. -/
def LocalDecl.members (decl : LocalDecl) : List (String × Json) :=
  [("ty", .str decl.type), ("vars", .arr (decl.vars.map Declarator.toJson))]

/-- The tree of what a counting loop does first. -/
def ForInit.toJson : ForInit → Json
  | .decl declared => ofKind "decl" declared.members
  | .exprs listed => ofKind "exprs" [("exprs", .arr (exprsToJson listed))]

/-- The tree of a label. -/
def CaseLabel.toJson : CaseLabel → Json
  | .case value => ofKind "case" [("value", value.toJson)]
  | .default => ofKind "default" []

mutual

/-- The tree of a statement. -/
def Stmt.toJson : Stmt → Json
  | .block body => ofKind "block" [("body", .arr (stmtsToJson body))]
  | .decl declared => ofKind "local" declared.members
  | .expr evaluated => ofKind "expr" [("expr", evaluated.toJson)]
  | .branch condition whenTrue none =>
    ofKind "if" [("cond", condition.toJson), ("then", whenTrue.toJson)]
  | .branch condition whenTrue (some whenFalse) =>
    ofKind "if" [("cond", condition.toJson), ("then", whenTrue.toJson),
      ("otherwise", whenFalse.toJson)]
  | .switch scrutinee sections =>
    ofKind "switch" [("scrutinee", scrutinee.toJson), ("sections", .arr (sectionsToJson sections))]
  | .forLoop init condition step body =>
    ofKind "for" (presentMember "init" (init.map ForInit.toJson) ++
      presentMember "cond" (condition.map Expr.toJson) ++
      [("step", .arr (exprsToJson step)), ("body", body.toJson)])
  | .whileLoop condition body =>
    ofKind "while" [("cond", condition.toJson), ("body", body.toJson)]
  | .doWhile body condition =>
    ofKind "do_while" [("body", body.toJson), ("cond", condition.toJson)]
  | .foreach type name iterated body =>
    ofKind "foreach" [("ty", .str type), ("var", .str name), ("iter", iterated.toJson),
      ("body", body.toJson)]
  | .breakOut => ofKind "break" []
  | .continueLoop => ofKind "continue" []
  | .returnValue value => ofKind "return" (presentMember "value" (value.map Expr.toJson))
  | .empty => ofKind "empty" []

/-- The trees of statements. -/
def stmtsToJson : List Stmt → List Json
  | [] => []
  | stmt :: rest => stmt.toJson :: stmtsToJson rest

/-- The trees of the sections of a switch. -/
def sectionsToJson : List SwitchSection → List Json
  | [] => []
  | .mk labels body :: rest =>
    .obj [("labels", .arr (labels.map CaseLabel.toJson)), ("body", .arr (stmtsToJson body))] ::
      sectionsToJson rest

end

/-! ### Reading

The readers take a bound on the depth that is left, which no tree within `Json.depthLimit` meets.
`within` says whether the value stands within another variant. -/

/-- An operator on one operand by its name. -/
def unaryOp? (json : Json) : Option UnaryOp := json.asName?.bind UnaryOp.ofName?

/-- An operator on two operands by its name. -/
def binaryOp? (json : Json) : Option BinaryOp := json.asName?.bind BinaryOp.ofName?

/-- The expression of a tree. -/
def exprOf? : (levels : Nat) → (within : Bool) → Json → Option Expr
  | 0, _, _ => none
  | levels + 1, within, json => do
    let inner := exprOf? levels true
    let (kind, content) ← json.variant? within exprKinds
    match kind with
    | "ident" =>
      let fields ← content.fields? ["name"]
      some (.ident (← fields.required? "name" Json.asText?))
    | "int" =>
      let fields ← content.fields? ["value"]
      some (.int (← fields.required? "value" Json.asInt?))
    | "float" =>
      let fields ← content.fields? ["value"]
      some (.float (← fields.required? "value" Json.asDouble?))
    | "str" =>
      let fields ← content.fields? ["value"]
      some (.str (← fields.required? "value" Json.asText?))
    | "char" =>
      let fields ← content.fields? ["value"]
      some (.char (← fields.required? "value" Json.asChar?))
    | "bool" =>
      let fields ← content.fields? ["value"]
      some (.bool (← fields.required? "value" Json.asBool?))
    | "null" => if content.isFieldless then some .null else none
    | "member" =>
      let fields ← content.fields? ["target", "name"]
      some (.member (← fields.required? "target" inner) (← fields.required? "name" Json.asText?))
    | "index" =>
      let fields ← content.fields? ["target", "args"]
      some (.index (← fields.required? "target" inner)
        (← fields.required? "args" (Json.asList? inner)))
    | "call" =>
      let fields ← content.fields? ["callee", "args"]
      some (.call (← fields.required? "callee" inner)
        (← fields.required? "args" (Json.asList? inner)))
    | "unary" =>
      let fields ← content.fields? ["op", "operand"]
      some (.unary (← fields.required? "op" unaryOp?) (← fields.required? "operand" inner))
    | "binary" =>
      let fields ← content.fields? ["op", "left", "right"]
      some (.binary (← fields.required? "op" binaryOp?) (← fields.required? "left" inner)
        (← fields.required? "right" inner))
    | "paren" =>
      let fields ← content.fields? ["inner"]
      some (.paren (← fields.required? "inner" inner))
    | "cast" =>
      let fields ← content.fields? ["ty", "inner"]
      some (.cast (← fields.required? "ty" Json.asText?) (← fields.required? "inner" inner))
    | "assign" =>
      let fields ← content.fields? ["op", "target", "value"]
      some (.assign (← fields.optional? "op" binaryOp?) (← fields.required? "target" inner)
        (← fields.required? "value" inner))
    | "conditional" =>
      let fields ← content.fields? ["cond", "then", "otherwise"]
      some (.conditional (← fields.required? "cond" inner) (← fields.required? "then" inner)
        (← fields.required? "otherwise" inner))
    | "new" =>
      let fields ← content.fields? ["ty", "args"]
      some (.create (← fields.required? "ty" Json.asText?)
        (← fields.required? "args" (Json.asList? inner)))
    | _ => none

/-- The declared variable of a tree. -/
def declaratorOf? (levels : Nat) (json : Json) : Option Declarator := do
  let fields ← json.fields? ["name", "init"]
  some ⟨← fields.required? "name" Json.asText?, ← fields.optional? "init" (exprOf? levels true)⟩

/-- The declaration of a tree. -/
def localDeclOf? (levels : Nat) (json : Json) : Option LocalDecl := do
  let fields ← json.fields? ["ty", "vars"]
  some ⟨← fields.required? "ty" Json.asText?,
    ← fields.required? "vars" (Json.asList? (declaratorOf? levels))⟩

/-- What a counting loop does first, from its tree. -/
def forInitOf? (levels : Nat) (json : Json) : Option ForInit := do
  let (kind, content) ← json.variant? true forInitKinds
  match kind with
  | "decl" => some (.decl (← localDeclOf? levels content))
  | "exprs" =>
    let fields ← content.fields? ["exprs"]
    some (.exprs (← fields.required? "exprs" (Json.asList? (exprOf? levels true))))
  | _ => none

/-- The label of a tree. -/
def labelOf? (levels : Nat) (json : Json) : Option CaseLabel := do
  let (kind, content) ← json.variant? true labelKinds
  match kind with
  | "case" =>
    let fields ← content.fields? ["value"]
    some (.case (← fields.required? "value" (exprOf? levels true)))
  | "default" => if content.isFieldless then some .default else none
  | _ => none

/-- The section of a tree, whose statements `stmt` reads. -/
def sectionOf? (levels : Nat) (stmt : Json → Option Stmt) (json : Json) :
    Option SwitchSection := do
  let fields ← json.fields? ["labels", "body"]
  some (.mk (← fields.required? "labels" (Json.asList? (labelOf? levels)))
    (← fields.required? "body" (Json.asList? stmt)))

/-- The statement of a tree. -/
def stmtOf? : (levels : Nat) → (within : Bool) → Json → Option Stmt
  | 0, _, _ => none
  | levels + 1, within, json => do
    let expr := exprOf? levels true
    let inner := stmtOf? levels true
    let (kind, content) ← json.variant? within stmtKinds
    match kind with
    | "block" =>
      let fields ← content.fields? ["body"]
      some (.block (← fields.required? "body" (Json.asList? inner)))
    | "local" => some (.decl (← localDeclOf? levels content))
    | "expr" =>
      let fields ← content.fields? ["expr"]
      some (.expr (← fields.required? "expr" expr))
    | "if" =>
      let fields ← content.fields? ["cond", "then", "otherwise"]
      some (.branch (← fields.required? "cond" expr) (← fields.required? "then" inner)
        (← fields.optional? "otherwise" inner))
    | "switch" =>
      let fields ← content.fields? ["scrutinee", "sections"]
      some (.switch (← fields.required? "scrutinee" expr)
        (← fields.required? "sections" (Json.asList? (sectionOf? levels inner))))
    | "for" =>
      let fields ← content.fields? ["init", "cond", "step", "body"]
      some (.forLoop (← fields.optional? "init" (forInitOf? levels))
        (← fields.optional? "cond" expr) (← fields.listOrEmpty? "step" expr)
        (← fields.required? "body" inner))
    | "while" =>
      let fields ← content.fields? ["cond", "body"]
      some (.whileLoop (← fields.required? "cond" expr) (← fields.required? "body" inner))
    | "do_while" =>
      let fields ← content.fields? ["body", "cond"]
      some (.doWhile (← fields.required? "body" inner) (← fields.required? "cond" expr))
    | "foreach" =>
      let fields ← content.fields? ["ty", "var", "iter", "body"]
      some (.foreach (← fields.required? "ty" Json.asText?) (← fields.required? "var" Json.asText?)
        (← fields.required? "iter" expr) (← fields.required? "body" inner))
    | "break" => if content.isFieldless then some .breakOut else none
    | "continue" => if content.isFieldless then some .continueLoop else none
    | "return" =>
      let fields ← content.fields? ["value"]
      some (.returnValue (← fields.optional? "value" expr))
    | "empty" => if content.isFieldless then some .empty else none
    | _ => none

/-! ### Whole texts -/

/-- The value of a text that may hold a tree. -/
def treeOf? (text : String) : Option Json := do
  let json ← Json.parse? text
  if json.isReadable && json.depth ≤ Json.depthLimit then some json else none

/-- The expression of a text that holds its tree. -/
def exprOfTree? (text : String) : Option Expr := do
  let json ← treeOf? text
  exprOf? (Json.depthLimit + 1) false json

/-- The statements of a text that holds a list of their trees. -/
def stmtsOfTree? (text : String) : Option (List Stmt) := do
  let json ← treeOf? text
  Json.asList? (stmtOf? (Json.depthLimit + 1) false) json

end Storefront.Script
