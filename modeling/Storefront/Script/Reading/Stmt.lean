import Storefront.Script.Reading.Expr
import Storefront.Script.Stmt

/-!
Reading statements. A statement is told by its first token; what starts with no keyword is a
declaration if it looks like one, and an expression otherwise.
-/

namespace Storefront.Script

variable (lastLine : Nat)

/-! ### Parts without statements -/

/-- Reads an expression in parentheses. -/
def readInParens (tokens : Tokens) : Read Expr tokens.length := do
  let ⟨_, rest, fewer⟩ ← expect lastLine .lParen "'('" tokens
  let ⟨expr, atClose, fewer₁⟩ ← readExpr lastLine rest
  let ⟨_, after, fewer₂⟩ ← expect lastLine .rParen "')'" atClose
  .ok ⟨expr, after, by omega⟩

/-- Reads one word. -/
def readWord (word : String) (missing : Fault) (tokens : Tokens) : Read Unit tokens.length :=
  match tokens with
  | found :: rest =>
    if found.value = .word word then .ok (.first () rest)
    else faultAt lastLine (found :: rest) missing
  | [] => faultAt lastLine [] missing

/-- Reads the first value of a declared variable, if it has one. -/
def readInit (tokens : Tokens) : Read (Option Expr) (tokens.length + 1) :=
  match tokens with
  | ⟨_, .assign none⟩ :: rest => do
    let ⟨init, after, fewer⟩ ← readExpr lastLine rest
    .ok ⟨some init, after, by simp only [List.length_cons]; omega⟩
  | tokens => .ok (.nothing none tokens)

/-- Reads declared variables with commas between them. -/
def readDeclarators (tokens : Tokens) : Read (List Declarator) tokens.length := do
  let ⟨name, afterName, fewer₁⟩ ← readName lastLine tokens
  let ⟨init, rest, fewer₂⟩ ← readInit lastLine afterName
  match rest, fewer₂ with
  | ⟨_, .comma⟩ :: afterComma, fewer₂ =>
    have shorter : afterComma.length + 1 < afterName.length + 1 := fewer₂
    let ⟨vars, after, fewer₃⟩ ← readDeclarators afterComma
    .ok ⟨⟨name, init⟩ :: vars, after, by omega⟩
  | rest, fewer₂ => .ok ⟨[⟨name, init⟩], rest, by omega⟩
termination_by tokens.length
decreasing_by omega

/-- Reads a declaration without its semicolon. -/
def readLocalDecl (tokens : Tokens) : Read LocalDecl tokens.length := do
  let ⟨type, rest, fewer₁⟩ ← readTypeName lastLine tokens
  let ⟨vars, after, fewer₂⟩ ← readDeclarators lastLine rest
  .ok ⟨⟨type, vars⟩, after, by omega⟩

/-- Reads a declaration or an expression, and the semicolon after it. -/
def readSimple (tokens : Tokens) : Read Stmt tokens.length :=
  if startsDeclaration tokens then do
    let ⟨decl, rest, fewer₁⟩ ← readLocalDecl lastLine tokens
    let ⟨_, after, fewer₂⟩ ← expect lastLine .semi "';' after declaration" rest
    .ok ⟨.decl decl, after, by omega⟩
  else do
    let ⟨expr, rest, fewer₁⟩ ← readExpr lastLine tokens
    let ⟨_, after, fewer₂⟩ ← expect lastLine .semi "';' after expression" rest
    .ok ⟨.expr expr, after, by omega⟩

/-- Reads what a `return` gives back, if anything, and the semicolon after it. -/
def readReturned (tokens : Tokens) : Read Stmt tokens.length :=
  match tokens with
  | ⟨_, .semi⟩ :: rest => .ok (.first (.returnValue none) rest)
  | tokens => do
    let ⟨value, rest, fewer₁⟩ ← readExpr lastLine tokens
    let ⟨_, after, fewer₂⟩ ← expect lastLine .semi "';' after return" rest
    .ok ⟨.returnValue (some value), after, by omega⟩

/-- Reads what a counting loop does first, which the semicolon after it may leave out. -/
def readForInit (tokens : Tokens) : Read (Option ForInit) (tokens.length + 1) :=
  if next? tokens = some .semi then .ok (.nothing none tokens)
  else if startsDeclaration tokens then do
    let decl ← readLocalDecl lastLine tokens
    .ok (decl.map (some ∘ ForInit.decl)).relax
  else do
    let exprs ← readExprList lastLine .semi tokens
    .ok (exprs.map (some ∘ ForInit.exprs))

/-- Reads the condition of a counting loop, which the semicolon after it may leave out. -/
def readForCondition (tokens : Tokens) : Read (Option Expr) (tokens.length + 1) :=
  if next? tokens = some .semi then .ok (.nothing none tokens)
  else do
    let condition ← readExpr lastLine tokens
    .ok (condition.map some).relax

/-- The head of a counting loop. -/
structure ForHead where
  init : Option ForInit
  condition : Option Expr
  step : List Expr

/-- Reads the head of a counting loop. -/
def readForHead (tokens : Tokens) : Read ForHead tokens.length := do
  let ⟨_, afterOpen, fewer₁⟩ ← expect lastLine .lParen "'(' after for" tokens
  let ⟨init, rest, fewer₂⟩ ← readForInit lastLine afterOpen
  let ⟨_, afterInit, fewer₃⟩ ← expect lastLine .semi "';' after for initializer" rest
  let ⟨condition, rest, fewer₄⟩ ← readForCondition lastLine afterInit
  let ⟨_, afterCondition, fewer₅⟩ ← expect lastLine .semi "';' after for condition" rest
  let ⟨step, rest, fewer₆⟩ ← readExprList lastLine .rParen afterCondition
  let ⟨_, after, fewer₇⟩ ← expect lastLine .rParen "')' to close for header" rest
  .ok ⟨⟨init, condition, step⟩, after, by omega⟩

/-- The head of a loop over a collection. -/
structure ForeachHead where
  type : String
  name : String
  iterated : Expr

/-- Reads the head of a loop over a collection. -/
def readForeachHead (tokens : Tokens) : Read ForeachHead tokens.length := do
  let ⟨_, afterOpen, fewer₁⟩ ← expect lastLine .lParen "'(' after foreach" tokens
  let ⟨type, afterType, fewer₂⟩ ← readTypeName lastLine afterOpen
  let ⟨name, afterName, fewer₃⟩ ← readName lastLine afterType
  let ⟨_, afterIn, fewer₄⟩ ← readWord lastLine "in" .missingIn afterName
  let ⟨iterated, rest, fewer₅⟩ ← readExpr lastLine afterIn
  let ⟨_, after, fewer₆⟩ ← expect lastLine .rParen "')'" rest
  .ok ⟨⟨type, name, iterated⟩, after,
    Nat.lt_trans fewer₆ <| Nat.lt_trans fewer₅ <| Nat.lt_trans fewer₄ <| Nat.lt_trans fewer₃ <|
      Nat.lt_trans fewer₂ fewer₁⟩

/-! ### Labels -/

/-- Whether a label of a switch section starts here. -/
def startsLabel (tokens : Tokens) : Bool :=
  next? tokens = some (.word "case") || next? tokens = some (.word "default")

/-- Reads the value of a case and the colon after it. -/
def readCase (tokens : Tokens) : Read CaseLabel tokens.length := do
  let ⟨value, rest, fewer₁⟩ ← readExpr lastLine tokens
  if next? rest = some (.word "when") then faultAt lastLine rest .caseGuard
  else
    let ⟨_, after, fewer₂⟩ ← expect lastLine .colon "':' after case label" rest
    .ok ⟨.case value, after, by omega⟩

/-- Reads a label of a switch section. -/
def readLabel (tokens : Tokens) : Read CaseLabel tokens.length :=
  match tokens with
  | ⟨_, .word "case"⟩ :: rest => do
    let ⟨label, after, fewer⟩ ← readCase lastLine rest
    .ok ⟨label, after, by simp only [List.length_cons]; omega⟩
  | ⟨_, .word "default"⟩ :: rest => do
    let ⟨_, after, fewer⟩ ← expect lastLine .colon "':' after default" rest
    .ok ⟨.default, after, by simp only [List.length_cons]; omega⟩
  | tokens =>
    faultAt lastLine tokens (.expected "'case' or 'default'" (next? tokens))

/-- Reads the labels of a switch section, of which there is at least one. -/
def readLabels (tokens : Tokens) : Read (List CaseLabel) tokens.length := do
  let ⟨label, rest, fewer⟩ ← readLabel lastLine tokens
  if startsLabel rest then
    let ⟨labels, after, stillFewer⟩ ← readLabels rest
    .ok ⟨label :: labels, after, by omega⟩
  else .ok ⟨[label], rest, fewer⟩
termination_by tokens.length

/-! ### Statements -/

/-- The keywords of statements that a setup script cannot have. -/
def unsupportedKeywords : List String := ["goto", "throw", "try", "using", "lock"]

mutual

/-- Reads a statement. -/
def readStmt (tokens : Tokens) : Read Stmt tokens.length :=
  match tokens with
  | ⟨_, .lBrace⟩ :: rest => do
    let ⟨body, after, fewer⟩ ← readBlock "'\x7d'" rest
    .ok ⟨.block body, after, by simp only [List.length_cons]; omega⟩
  | ⟨_, .semi⟩ :: rest => .ok (.first .empty rest)
  | ⟨line, .word word⟩ :: rest =>
    if word = "if" then do
      let ⟨stmt, after, fewer⟩ ← readBranch rest
      .ok ⟨stmt, after, by simp only [List.length_cons]; omega⟩
    else if word = "switch" then do
      let ⟨stmt, after, fewer⟩ ← readSwitch rest
      .ok ⟨stmt, after, by simp only [List.length_cons]; omega⟩
    else if word = "for" then do
      let ⟨head, afterHead, fewer₁⟩ ← readForHead lastLine rest
      let ⟨body, after, fewer₂⟩ ← readStmt afterHead
      .ok ⟨.forLoop head.init head.condition head.step body, after,
        by simp only [List.length_cons]; omega⟩
    else if word = "foreach" then do
      let ⟨head, afterHead, fewer₁⟩ ← readForeachHead lastLine rest
      let ⟨body, after, fewer₂⟩ ← readStmt afterHead
      .ok ⟨.foreach head.type head.name head.iterated body, after,
        by simp only [List.length_cons]; omega⟩
    else if word = "while" then do
      let ⟨condition, afterHead, fewer₁⟩ ← readInParens lastLine rest
      let ⟨body, after, fewer₂⟩ ← readStmt afterHead
      .ok ⟨.whileLoop condition body, after, by simp only [List.length_cons]; omega⟩
    else if word = "do" then do
      let ⟨stmt, after, fewer⟩ ← readDoWhile rest
      .ok ⟨stmt, after, by simp only [List.length_cons]; omega⟩
    else if word = "break" then do
      let ⟨_, after, fewer⟩ ← expect lastLine .semi "';' after break" rest
      .ok ⟨.breakOut, after, by simp only [List.length_cons]; omega⟩
    else if word = "continue" then do
      let ⟨_, after, fewer⟩ ← expect lastLine .semi "';' after continue" rest
      .ok ⟨.continueLoop, after, by simp only [List.length_cons]; omega⟩
    else if word = "return" then do
      let ⟨stmt, after, fewer⟩ ← readReturned lastLine rest
      .ok ⟨stmt, after, by simp only [List.length_cons]; omega⟩
    else if unsupportedKeywords.contains word then
      .error ⟨line, .unsupportedStatement word⟩
    else readSimple lastLine (⟨line, .word word⟩ :: rest)
  | tokens => readSimple lastLine tokens
termination_by tokens.length * 4 + 1

/-- Reads a conditional statement after its keyword. -/
def readBranch (tokens : Tokens) : Read Stmt tokens.length := do
  let ⟨condition, afterHead, fewer₁⟩ ← readInParens lastLine tokens
  let ⟨whenTrue, rest, fewer₂⟩ ← readStmt afterHead
  if next? rest = some (.word "else") then
    have shorter := List.length_tail (l := rest)
    let ⟨whenFalse, after, fewer₃⟩ ← readStmt rest.tail
    .ok ⟨.branch condition whenTrue (some whenFalse), after, by omega⟩
  else .ok ⟨.branch condition whenTrue none, rest, by omega⟩
termination_by tokens.length * 4 + 1
decreasing_by all_goals omega

/-- Reads a loop that tests at its end, after its keyword. -/
def readDoWhile (tokens : Tokens) : Read Stmt tokens.length := do
  let ⟨body, rest, fewer₁⟩ ← readStmt tokens
  let ⟨_, afterWhile, fewer₂⟩ ← readWord lastLine "while" .missingWhile rest
  let ⟨condition, rest, fewer₃⟩ ← readInParens lastLine afterWhile
  let ⟨_, after, fewer₄⟩ ← expect lastLine .semi "';'" rest
  .ok ⟨.doWhile body condition, after, by omega⟩
termination_by tokens.length * 4 + 2

/-- Reads statements up to a closing brace, and the brace, which `what` describes. -/
def readBlock (what : String) (tokens : Tokens) : Read (List Stmt) tokens.length := do
  let ⟨body, atClose, fewer₁⟩ ← readStmts tokens
  let ⟨_, after, fewer₂⟩ ← expect lastLine .rBrace what atClose
  .ok ⟨body, after, by omega⟩
termination_by tokens.length * 4 + 3

/-- Reads statements up to a closing brace, which is left. -/
def readStmts (tokens : Tokens) : Read (List Stmt) (tokens.length + 1) :=
  match next? tokens with
  | some .rBrace => .ok (.nothing [] tokens)
  | none => faultAt lastLine tokens .unterminatedBlock
  | some _ => do
    let ⟨stmt, rest, fewer⟩ ← readStmt tokens
    let ⟨stmts, after, stillFewer⟩ ← readStmts rest
    .ok ⟨stmt :: stmts, after, by omega⟩
termination_by tokens.length * 4 + 2

/-- Reads a switch after its keyword. -/
def readSwitch (tokens : Tokens) : Read Stmt tokens.length := do
  let ⟨scrutinee, afterHead, fewer₁⟩ ← readInParens lastLine tokens
  let ⟨_, afterOpen, fewer₂⟩ ← expect lastLine .lBrace "'\x7b' to open switch" afterHead
  let ⟨sections, atClose, fewer₃⟩ ← readSections afterOpen
  let ⟨_, after, fewer₄⟩ ← expect lastLine .rBrace "'\x7d' to close switch" atClose
  .ok ⟨.switch scrutinee sections, after, by omega⟩
termination_by tokens.length * 4 + 1

/-- Reads the sections of a switch up to its closing brace, which is left. -/
def readSections (tokens : Tokens) : Read (List SwitchSection) (tokens.length + 1) :=
  if next? tokens = some .rBrace then .ok (.nothing [] tokens)
  else do
    let ⟨labels, afterLabels, fewer₁⟩ ← readLabels lastLine tokens
    let ⟨body, rest, fewer₂⟩ ← readSectionBody afterLabels
    let ⟨sections, after, fewer₃⟩ ← readSections rest
    .ok ⟨.mk labels body :: sections, after, by omega⟩
termination_by tokens.length * 4

/-- Reads the statements of a switch section, up to the next label or the closing brace, which is
left. -/
def readSectionBody (tokens : Tokens) : Read (List Stmt) (tokens.length + 1) :=
  if startsLabel tokens || next? tokens = some .rBrace then
    .ok (.nothing [] tokens)
  else if tokens.isEmpty then faultAt lastLine tokens .unterminatedSwitch
  else do
    let ⟨stmt, rest, fewer⟩ ← readStmt tokens
    let ⟨stmts, after, stillFewer⟩ ← readSectionBody rest
    .ok ⟨stmt :: stmts, after, by omega⟩
termination_by tokens.length * 4 + 2

end

end Storefront.Script
