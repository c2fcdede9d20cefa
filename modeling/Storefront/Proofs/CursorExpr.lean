import Storefront.Proofs.Cursor

/-!
The machine reads expressions: each function looks at the position, moves it and calls the others,
or itself where the text loops.
-/

namespace Storefront.Script.Cursor

variable (items : List Item)

/-! ### Looking ahead -/

/-- Whether a token names a primitive type. -/
def isPrimitive : Option Token → Bool
  | some (.word type) => isPrimitiveType type
  | _ => false

/-- Whether a cast to a primitive type starts at the position. -/
def atCast : Run Bool := do
  let next ← peek items
  let type ← peekAt items 1
  let closing ← peekAt items 2
  pure (next = some .lParen && isPrimitive type && closing = some .rParen)

/-- Whether the type argument of a generic call starts at the position. -/
def atTypeArgument : Run Bool := do
  let next ← peek items
  let type ← peekAt items 1
  let closing ← peekAt items 2
  let opening ← peekAt items 3
  pure (next = some .lt && isWord type && closing = some .gt && opening = some .lParen)

/-- Reads the name of a member after its dot. -/
def readMemberName : Run String := do
  let member ← advance items
  match member.value with
  | some (.word name) => do
    let generic ← atTypeArgument items
    if generic then faultHere items .genericCall else pure name
  | _ => faultHere items .missingMemberName

/-- The operator on two operands at the position. -/
def peekOperator : Run (Option BinaryOp) := do
  let next ← peek items
  pure (next.bind Token.binaryOp?)

/-- The literal that a minus sign and the number behind it make. -/
def negated? : Option Token → Option (Run Expr)
  | some (.int value) => some do
    let negated ← negate value
    pure (.int negated)
  | some (.float value) => some (pure (.float (-value)))
  | _ => none

/-! ### Expressions -/

mutual

/-- Reads an expression. -/
def readExpr : (steps : Nat) → Run Expr
  | 0 => timeout
  | steps + 1 => do
    let target ← readConditional steps
    let next ← peek items
    match next with
    | some (.assign op) => do
      let _ ← advance items
      let value ← readExpr steps
      pure (.assign op target value)
    | some .arrow => faultHere items .lambda
    | _ => pure target

/-- Reads an expression without an assignment at its top. -/
def readConditional : (steps : Nat) → Run Expr
  | 0 => timeout
  | steps + 1 => do
    let condition ← readBinary steps 1
    let next ← peek items
    match next with
    | some .question => do
      let _ ← advance items
      let whenTrue ← readExpr steps
      expect items (some .colon) "':' in conditional expression"
      let whenFalse ← readConditional steps
      pure (.conditional condition whenTrue whenFalse)
    | _ => pure condition

/-- Reads operands joined by operators that bind at least as tightly as `least`. -/
def readBinary : (steps least : Nat) → Run Expr
  | 0, _ => timeout
  | steps + 1, least => do
    let left ← readUnary steps
    readOperators steps least left

/-- Reads the operators and further operands after a first operand. -/
def readOperators : (steps least : Nat) → (left : Expr) → Run Expr
  | 0, _, _ => timeout
  | steps + 1, least, left => do
    let operator ← peekOperator items
    match operator with
    | some op =>
      if op.precedence < least then pure left
      else do
        let _ ← advance items
        let tighter ← oneTighter op.precedence
        let right ← readBinary steps tighter
        readOperators steps least (.binary op left right)
    | none => pure left

/-- Reads an operand with the operators in front of it and behind it. -/
def readUnary : (steps : Nat) → Run Expr
  | 0 => timeout
  | steps + 1 => do
    let next ← peek items
    let casts ← atCast items
    if next = some .minus then readNegated steps
    else if casts then readCast steps
    else
      match next.bind Token.leadingOp? with
      | some op => do
        let _ ← advance items
        let operand ← readUnary steps
        pure (.unary op operand)
      | none => do
        let primary ← readPrimary steps
        readPostfix steps primary

/-- Reads an operand behind a minus sign, which becomes part of a number. -/
def readNegated : (steps : Nat) → Run Expr
  | 0 => timeout
  | steps + 1 => do
    let following ← peekAt items 1
    match negated? following with
    | some negated => do
      let _ ← advance items
      let _ ← advance items
      let literal ← negated
      readPostfix steps literal
    | none => do
      let _ ← advance items
      let operand ← readUnary steps
      pure (.unary .neg operand)

/-- Reads a cast and its operand. -/
def readCast : (steps : Nat) → Run Expr
  | 0 => timeout
  | steps + 1 => do
    let _ ← advance items
    let type ← advance items
    match type.value with
    | some (.word type) => do
      expect items (some .rParen) "')' after cast type"
      let inner ← readUnary steps
      pure (.cast type inner)
    | _ => throw .lostType

/-- Reads the members, calls, indices and operators behind an operand. -/
def readPostfix : (steps : Nat) → (head : Expr) → Run Expr
  | 0, _ => timeout
  | steps + 1, head => do
    let next ← peek items
    if next = some .dot then do
      let _ ← advance items
      let name ← readMemberName items
      readPostfix steps (.member head name)
    else if next = some .lParen then do
      let _ ← advance items
      let args ← readArgs steps .rParen
      expect items (some .rParen) "')' to close argument list"
      readPostfix steps (.call head args)
    else if next = some .lBracket then do
      let _ ← advance items
      let args ← readArgs steps .rBracket
      expect items (some .rBracket) "']' to close index"
      readPostfix steps (.index head args)
    else
      match next.bind Token.trailingOp? with
      | some op => do
        let _ ← advance items
        readPostfix steps (.unary op head)
      | none => pure head

/-- Reads arguments up to the token that closes them. -/
def readArgs : (steps : Nat) → (close : Token) → Run (List Expr)
  | 0, _ => timeout
  | steps + 1, close => do
    let next ← peek items
    if next = some (.word "out") then faultHere items (.unsupportedArgument "out")
    else if next = some (.word "ref") then faultHere items (.unsupportedArgument "ref")
    else readExprList steps close

/-- Reads expressions with commas between them, or none when the closing token comes first. -/
def readExprList : (steps : Nat) → (close : Token) → Run (List Expr)
  | 0, _ => timeout
  | steps + 1, close => do
    let next ← peek items
    if next = some close then pure [] else readExprs steps

/-- Reads one or more expressions with commas between them. -/
def readExprs : (steps : Nat) → Run (List Expr)
  | 0 => timeout
  | steps + 1 => do
    let expr ← readExpr steps
    let next ← peek items
    match next with
    | some .comma => do
      let _ ← advance items
      let exprs ← readExprs steps
      pure (expr :: exprs)
    | _ => pure [expr]

/-- Reads an operand without operators. -/
def readPrimary : (steps : Nat) → Run Expr
  | 0 => timeout
  | steps + 1 => do
    let item ← advance items
    match item.value.bind literal?, item.value with
    | some literal, _ => pure literal
    | none, some .lParen => do
      let inner ← readExpr steps
      expect items (some .rParen) "')'"
      pure (.paren inner)
    | none, some (.word word) =>
      if word = "true" then pure (.bool true)
      else if word = "false" then pure (.bool false)
      else if word = "null" then pure .null
      else if word = "new" then readCreation steps
      else if isReserved word then throw (.fault ⟨item.line, .unexpectedKeyword word⟩)
      else pure (.ident word)
    | none, token => throw (.fault ⟨item.line, .unexpectedToken token⟩)

/-- Reads the type and the arguments of a created value. -/
def readCreation : (steps : Nat) → Run Expr
  | 0 => timeout
  | steps + 1 => do
    let type ← readTypeName items steps
    let next ← peek items
    match next with
    | some .lParen => do
      let _ ← advance items
      let args ← readArgs steps .rParen
      expect items (some .rParen) "')' to close constructor arguments"
      let after ← peek items
      if after = some .lBrace then faultHere items .objectInitializer
      else pure (.create type args)
    | _ => faultHere items .arrayCreation

end

end Storefront.Script.Cursor
