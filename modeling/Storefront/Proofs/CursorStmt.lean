import Storefront.Proofs.CursorExpr

/-!
The machine reads statements, and whole texts: a procedure is a list of statements or one method
around them.
-/

namespace Storefront.Script.Cursor

variable (items : List Item)

/-! ### Parts without statements -/

/-- Reads an expression in parentheses. -/
def readInParens (steps : Nat) : Run Expr := do
  expect items (some .lParen) "'('"
  let expr ← readExpr items steps
  expect items (some .rParen) "')'"
  pure expr

/-- Takes a word that has to stand at the position. -/
def expectWord (word : String) (missing : Fault) : Run Unit := do
  let eaten ← eatWord items word
  if eaten then pure () else faultHere items missing

/-- Reads the first value of a declared variable, if it has one. -/
def readInit (steps : Nat) : Run (Option Expr) := do
  let next ← peek items
  match next with
  | some (.assign none) => do
    let _ ← advance items
    let init ← readExpr items steps
    pure (some init)
  | _ => pure none

/-- Reads declared variables with commas between them. -/
def readDeclarators : (steps : Nat) → Run (List Declarator)
  | 0 => timeout
  | steps + 1 => do
    let name ← readName items
    let init ← readInit items steps
    let next ← peek items
    match next with
    | some .comma => do
      let _ ← advance items
      let vars ← readDeclarators steps
      pure (⟨name, init⟩ :: vars)
    | _ => pure [⟨name, init⟩]

/-- Reads a declaration without its semicolon. -/
def readLocalDecl (steps : Nat) : Run LocalDecl := do
  let type ← readTypeName items steps
  let vars ← readDeclarators items steps
  pure ⟨type, vars⟩

/-- Reads a declaration or an expression, and the semicolon after it. -/
def readSimple (steps : Nat) : Run Stmt := do
  let declares ← atDeclaration items steps
  if declares then do
    let decl ← readLocalDecl items steps
    expect items (some .semi) "';' after declaration"
    pure (.decl decl)
  else do
    let expr ← readExpr items steps
    expect items (some .semi) "';' after expression"
    pure (.expr expr)

/-- Reads what a `return` gives back, if anything, and the semicolon after it. -/
def readReturned (steps : Nat) : Run Stmt := do
  let next ← peek items
  if next = some .semi then do
    let _ ← advance items
    pure (.returnValue none)
  else do
    let value ← readExpr items steps
    expect items (some .semi) "';' after return"
    pure (.returnValue (some value))

/-- Reads what a counting loop does first. -/
def readForInit (steps : Nat) : Run (Option ForInit) := do
  let next ← peek items
  if next = some .semi then pure none
  else do
    let declares ← atDeclaration items steps
    if declares then do
      let decl ← readLocalDecl items steps
      pure (some (.decl decl))
    else do
      let exprs ← readExprList items steps .semi
      pure (some (.exprs exprs))

/-- Reads the condition of a counting loop. -/
def readForCondition (steps : Nat) : Run (Option Expr) := do
  let next ← peek items
  if next = some .semi then pure none
  else do
    let condition ← readExpr items steps
    pure (some condition)

/-- Reads the head of a counting loop. -/
def readForHead (steps : Nat) : Run ForHead := do
  expect items (some .lParen) "'(' after for"
  let init ← readForInit items steps
  expect items (some .semi) "';' after for initializer"
  let condition ← readForCondition items steps
  expect items (some .semi) "';' after for condition"
  let step ← readExprList items steps .rParen
  expect items (some .rParen) "')' to close for header"
  pure ⟨init, condition, step⟩

/-- Reads the head of a loop over a collection. -/
def readForeachHead (steps : Nat) : Run ForeachHead := do
  expect items (some .lParen) "'(' after foreach"
  let type ← readTypeName items steps
  let name ← readName items
  expectWord items "in" .missingIn
  let iterated ← readExpr items steps
  expect items (some .rParen) "')'"
  pure ⟨type, name, iterated⟩

/-! ### Labels -/

/-- Reads the value of a case and the colon after it. -/
def readCase (steps : Nat) : Run CaseLabel := do
  let value ← readExpr items steps
  let next ← peek items
  if next = some (.word "when") then faultHere items .caseGuard
  else do
    expect items (some .colon) "':' after case label"
    pure (.case value)

/-- Reads the colon after a default. -/
def readDefault : Run CaseLabel := do
  expect items (some .colon) "':' after default"
  pure .default

/-- Reads labels of a switch section as long as they come. -/
def readLabels : (steps : Nat) → Run (List CaseLabel)
  | 0 => timeout
  | steps + 1 => do
    let isCase ← eatWord items "case"
    if isCase then do
      let label ← readCase items steps
      let labels ← readLabels steps
      pure (label :: labels)
    else do
      let isDefault ← eatWord items "default"
      if isDefault then do
        let label ← readDefault items
        let labels ← readLabels steps
        pure (label :: labels)
      else pure []

/-! ### Statements -/

/-- Takes the first of the words that stands at the position and goes on as listed with it; without
one of them, goes on as said last. -/
def firstWord {α : Type} : (listed : List (String × Run α)) → (otherwise : Run α) → Run α
  | [], otherwise => otherwise
  | (word, goesOn) :: listed, otherwise => do
    let eaten ← eatWord items word
    if eaten then goesOn else firstWord listed otherwise

/-- Reads a statement that starts with no keyword of its own. -/
def readOther (steps : Nat) : Run Stmt := do
  let next ← peek items
  match next with
  | some (.word word) =>
    if unsupportedKeywords.contains word then faultHere items (.unsupportedStatement word)
    else readSimple items steps
  | _ => readSimple items steps

/-- Takes the semicolon after a statement that is one word. -/
def endWord (what : String) (stmt : Stmt) : Run Stmt := do
  expect items (some .semi) what
  pure stmt

mutual

/-- Reads a statement. -/
def readStmt : (steps : Nat) → Run Stmt
  | 0 => timeout
  | steps + 1 => do
    let next ← peek items
    if next = some .lBrace then do
      expect items (some .lBrace) "'\x7b'"
      let body ← readBlock steps "'\x7d'"
      pure (.block body)
    else if next = some .semi then do
      let _ ← advance items
      pure .empty
    else
      firstWord items [
        ("if", readBranch steps),
        ("switch", readSwitch steps),
        ("for", do
          let head ← readForHead items steps
          let body ← readStmt steps
          pure (.forLoop head.init head.condition head.step body)),
        ("foreach", do
          let head ← readForeachHead items steps
          let body ← readStmt steps
          pure (.foreach head.type head.name head.iterated body)),
        ("while", do
          let condition ← readInParens items steps
          let body ← readStmt steps
          pure (.whileLoop condition body)),
        ("do", readDoWhile steps),
        ("break", endWord items "';' after break" .breakOut),
        ("continue", endWord items "';' after continue" .continueLoop),
        ("return", readReturned items steps)] (readOther items steps)

/-- Reads a conditional statement after its keyword. -/
def readBranch : (steps : Nat) → Run Stmt
  | 0 => timeout
  | steps + 1 => do
    let condition ← readInParens items steps
    let whenTrue ← readStmt steps
    let hasElse ← eatWord items "else"
    if hasElse then do
      let whenFalse ← readStmt steps
      pure (.branch condition whenTrue (some whenFalse))
    else pure (.branch condition whenTrue none)

/-- Reads a loop that tests at its end, after its keyword. -/
def readDoWhile : (steps : Nat) → Run Stmt
  | 0 => timeout
  | steps + 1 => do
    let body ← readStmt steps
    expectWord items "while" .missingWhile
    let condition ← readInParens items steps
    expect items (some .semi) "';'"
    pure (.doWhile body condition)

/-- Reads statements up to a closing brace, and the brace, which `what` describes. -/
def readBlock : (steps : Nat) → (what : String) → Run (List Stmt)
  | 0, _ => timeout
  | steps + 1, what => do
    let body ← readStmts steps
    expect items (some .rBrace) what
    pure body

/-- Reads statements up to a closing brace. -/
def readStmts : (steps : Nat) → Run (List Stmt)
  | 0 => timeout
  | steps + 1 => do
    let next ← peek items
    if next = some .rBrace then pure []
    else if next = none then faultHere items .unterminatedBlock
    else do
      let stmt ← readStmt steps
      let stmts ← readStmts steps
      pure (stmt :: stmts)

/-- Reads a switch after its keyword. -/
def readSwitch : (steps : Nat) → Run Stmt
  | 0 => timeout
  | steps + 1 => do
    let scrutinee ← readInParens items steps
    expect items (some .lBrace) "'\x7b' to open switch"
    let sections ← readSections steps
    expect items (some .rBrace) "'\x7d' to close switch"
    pure (.switch scrutinee sections)

/-- Reads the sections of a switch up to its closing brace. -/
def readSections : (steps : Nat) → Run (List SwitchSection)
  | 0 => timeout
  | steps + 1 => do
    let next ← peek items
    if next = some .rBrace then pure []
    else do
      let labels ← readLabels items steps
      if labels.isEmpty then do
        let found ← peek items
        faultHere items (.expected "'case' or 'default'" found)
      else do
        let body ← readSectionBody steps
        let sections ← readSections steps
        pure (.mk labels body :: sections)

/-- Reads the statements of a switch section, up to the next label or the closing brace. -/
def readSectionBody : (steps : Nat) → Run (List Stmt)
  | 0 => timeout
  | steps + 1 => do
    let next ← peek items
    if next = some (.word "case") ∨ next = some (.word "default") ∨ next = some .rBrace then pure []
    else if next = none then faultHere items .unterminatedSwitch
    else do
      let stmt ← readStmt steps
      let stmts ← readSectionBody steps
      pure (stmt :: stmts)

end

/-! ### Whole texts -/

/-- Reads statements up to the mark. -/
def readToEnd : (steps : Nat) → Run (List Stmt)
  | 0 => timeout
  | steps + 1 => do
    let next ← peek items
    if next = none then pure []
    else do
      let stmt ← readStmt items steps
      let stmts ← readToEnd steps
      pure (stmt :: stmts)

/-- Reads a method from its header on. -/
def readMethod (steps : Nat) : Run (List Stmt) := do
  skipMethodHeader items steps
  expect items (some .lBrace) "'\x7b' to open method body"
  let body ← readBlock items steps "'\x7d' to close method body"
  expect items none "end of input after method body"
  pure body

/-- Reads a procedure. -/
def readProcedure (steps : Nat) : Run (List Stmt) := do
  skipAttributes items steps
  let method ← atMethodHeader items steps
  if method then readMethod items steps else readToEnd items steps

end Storefront.Script.Cursor
