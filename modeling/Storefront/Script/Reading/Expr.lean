import Storefront.Script.Expr
import Storefront.Script.Reading.Basic

/-!
Reading expressions. Operators on two operands are read by how tightly they bind; those of equal
strength group to the left, assignments and conditionals to the right. A minus sign directly before
a number becomes part of the number.
-/

namespace Storefront.Script

/-! ### What single tokens mean -/

/-- The operator on two operands that a token stands for. -/
def Token.binaryOp? : Token → Option BinaryOp
  | orOr => some .or
  | andAnd => some .and
  | pipe => some .bitOr
  | caret => some .xor
  | amp => some .bitAnd
  | eqEq => some .eq
  | notEq => some .ne
  | lt => some .lt
  | le => some .le
  | gt => some .gt
  | ge => some .ge
  | shl => some .shl
  | shr => some .shr
  | plus => some .add
  | minus => some .sub
  | star => some .mul
  | slash => some .div
  | percent => some .mod
  | _ => none

/-- The operator in front of an operand that a token stands for. -/
def Token.leadingOp? : Token → Option UnaryOp
  | bang => some .not
  | tilde => some .bitNot
  | plus => some .plus
  | minus => some .neg
  | plusPlus => some .preInc
  | minusMinus => some .preDec
  | _ => none

/-- The operator behind an operand that a token stands for. -/
def Token.trailingOp? : Token → Option UnaryOp
  | plusPlus => some .postInc
  | minusMinus => some .postDec
  | _ => none

/-- What an operand with its operators in front starts with. The tokens after it are fewer than
`bound`. -/
inductive Lead (bound : Nat) where
  | operator (op : UnaryOp) (rest : Tokens) (fewer : rest.length < bound)
  | negated (literal : Expr) (rest : Tokens) (fewer : rest.length < bound)
  | cast (type : String) (rest : Tokens) (fewer : rest.length < bound)
  | operand

/-- Finds out what an operand starts with: a number with its sign, a cast to a primitive type, an
operator, or none of these. -/
def leadOf (tokens : Tokens) : Lead tokens.length :=
  match tokens with
  | ⟨_, .minus⟩ :: ⟨_, .int value⟩ :: rest =>
    .negated (.int (-value)) rest (by simp only [List.length_cons]; omega)
  | ⟨_, .minus⟩ :: ⟨_, .float value⟩ :: rest =>
    .negated (.float (-value)) rest (by simp only [List.length_cons]; omega)
  | ⟨_, .lParen⟩ :: ⟨_, .word type⟩ :: ⟨_, .rParen⟩ :: rest =>
    if isPrimitiveType type then .cast type rest (by simp only [List.length_cons]; omega)
    else .operand
  | ⟨_, token⟩ :: rest =>
    match token.leadingOp? with
    | some op => .operator op rest (Nat.lt_succ_self _)
    | none => .operand
  | [] => .operand

/-- Whether the tokens after a member's name look like the type argument of a generic call. -/
def startsTypeArgument : Tokens → Bool
  | ⟨_, .lt⟩ :: ⟨_, .word _⟩ :: ⟨_, .gt⟩ :: ⟨_, .lParen⟩ :: _ => true
  | _ => false

/-- Reads the name of a member after its dot. -/
def readMemberName (lastLine : Nat) (tokens : Tokens) : Read String tokens.length :=
  match tokens with
  | ⟨_, .word name⟩ :: rest =>
    if startsTypeArgument rest then faultAt lastLine rest .genericCall
    else .ok (.first name rest)
  | tokens => faultAt lastLine tokens.tail .missingMemberName

/-- The literal that a token consists of. -/
def literal? : Token → Option Expr
  | .int value => some (.int value)
  | .float value => some (.float value)
  | .str value => some (.str value)
  | .char value => some (.char value)
  | _ => none

/-! ### Expressions -/

variable (lastLine : Nat)

mutual

/-- Reads an expression. -/
def readExpr (tokens : Tokens) : Read Expr tokens.length := do
  let ⟨target, rest, fewer⟩ ← readConditional tokens
  match rest, fewer with
  | ⟨_, .assign op⟩ :: afterSign, fewer =>
    have shorter : afterSign.length + 1 < tokens.length := fewer
    let ⟨value, after, stillFewer⟩ ← readExpr afterSign
    .ok ⟨.assign op target value, after, by omega⟩
  | ⟨line, .arrow⟩ :: rest, _ => faultAt lastLine (⟨line, .arrow⟩ :: rest) .lambda
  | rest, fewer => .ok ⟨target, rest, fewer⟩
termination_by tokens.length * 10 + 6
decreasing_by all_goals omega

/-- Reads an expression without an assignment at its top. -/
def readConditional (tokens : Tokens) : Read Expr tokens.length := do
  let ⟨condition, rest, fewer⟩ ← readBinary 1 tokens
  match rest, fewer with
  | ⟨_, .question⟩ :: afterMark, fewer =>
    have shorter : afterMark.length + 1 < tokens.length := fewer
    let ⟨whenTrue, atColon, fewer₁⟩ ← readExpr afterMark
    let ⟨_, afterColon, fewer₂⟩ ← expect lastLine .colon "':' in conditional expression" atColon
    let ⟨whenFalse, after, fewer₃⟩ ← readConditional afterColon
    .ok ⟨.conditional condition whenTrue whenFalse, after,
      by omega⟩
  | rest, fewer => .ok ⟨condition, rest, fewer⟩
termination_by tokens.length * 10 + 5
decreasing_by all_goals omega

/-- Reads operands joined by operators that bind at least as tightly as `least`. -/
def readBinary (least : Nat) (tokens : Tokens) : Read Expr tokens.length := do
  let ⟨left, rest, fewer⟩ ← readUnary tokens
  let ⟨whole, after, stillFewer⟩ ← readOperators least left rest
  .ok ⟨whole, after, by omega⟩
termination_by tokens.length * 10 + 4
decreasing_by all_goals omega

/-- Reads the operators and further operands after a first operand. -/
def readOperators (least : Nat) (left : Expr) (tokens : Tokens) :
    Read Expr (tokens.length + 1) :=
  match tokens with
  | ⟨line, token⟩ :: rest =>
    match token.binaryOp? with
    | some op =>
      if op.precedence < least then .ok (.nothing left (⟨line, token⟩ :: rest))
      else do
        let ⟨right, afterRight, fewer⟩ ← readBinary (op.precedence + 1) rest
        let ⟨whole, after, stillFewer⟩ ← readOperators least (.binary op left right) afterRight
        .ok ⟨whole, after, by simp only [List.length_cons]; omega⟩
    | none => .ok (.nothing left (⟨line, token⟩ :: rest))
  | [] => .ok (.nothing left [])
termination_by tokens.length * 10
decreasing_by all_goals simp only [List.length_cons] at *; omega

/-- Reads an operand with the operators in front of it and behind it. -/
def readUnary (tokens : Tokens) : Read Expr tokens.length :=
  match leadOf tokens with
  | .operator op rest fewer => do
    let ⟨operand, after, stillFewer⟩ ← readUnary rest
    .ok ⟨.unary op operand, after, by omega⟩
  | .negated literal rest fewer => do
    let ⟨whole, after, stillFewer⟩ ← readPostfix literal rest
    .ok ⟨whole, after, by omega⟩
  | .cast type rest fewer => do
    let ⟨inner, after, stillFewer⟩ ← readUnary rest
    .ok ⟨.cast type inner, after, by omega⟩
  | .operand => do
    let ⟨primary, rest, fewer⟩ ← readPrimary tokens
    let ⟨whole, after, stillFewer⟩ ← readPostfix primary rest
    .ok ⟨whole, after, by omega⟩
termination_by tokens.length * 10 + 3
decreasing_by all_goals omega

/-- Reads the members, calls, indices and operators behind an operand. -/
def readPostfix (head : Expr) (tokens : Tokens) : Read Expr (tokens.length + 1) :=
  match tokens with
  | ⟨_, .dot⟩ :: rest => do
    let ⟨name, afterName, fewer⟩ ← readMemberName lastLine rest
    let ⟨whole, after, stillFewer⟩ ← readPostfix (.member head name) afterName
    .ok ⟨whole, after, by simp only [List.length_cons]; omega⟩
  | ⟨_, .lParen⟩ :: rest => do
    let ⟨args, atClose, fewer⟩ ← readArgs .rParen rest
    let ⟨_, afterClose, fewer₁⟩ ← expect lastLine .rParen "')' to close argument list" atClose
    let ⟨whole, after, fewer₂⟩ ← readPostfix (.call head args) afterClose
    .ok ⟨whole, after, by simp only [List.length_cons]; omega⟩
  | ⟨_, .lBracket⟩ :: rest => do
    let ⟨args, atClose, fewer⟩ ← readArgs .rBracket rest
    let ⟨_, afterClose, fewer₁⟩ ← expect lastLine .rBracket "']' to close index" atClose
    let ⟨whole, after, fewer₂⟩ ← readPostfix (.index head args) afterClose
    .ok ⟨whole, after, by simp only [List.length_cons]; omega⟩
  | ⟨line, token⟩ :: rest =>
    match token.trailingOp? with
    | some op => do
      let ⟨whole, after, fewer⟩ ← readPostfix (.unary op head) rest
      .ok ⟨whole, after, by simp only [List.length_cons]; omega⟩
    | none => .ok (.nothing head (⟨line, token⟩ :: rest))
  | [] => .ok (.nothing head [])
termination_by tokens.length * 10
decreasing_by all_goals simp only [List.length_cons] at *; omega

/-- Reads arguments up to the token that closes them, which is left. -/
def readArgs (close : Token) (tokens : Tokens) : Read (List Expr) (tokens.length + 1) :=
  match next? tokens with
  | some (.word "out") => faultAt lastLine tokens (.unsupportedArgument "out")
  | some (.word "ref") => faultAt lastLine tokens (.unsupportedArgument "ref")
  | _ => readExprList close tokens
termination_by tokens.length * 10 + 9
decreasing_by all_goals omega

/-- Reads expressions with commas between them, or none when the closing token comes first. -/
def readExprList (close : Token) (tokens : Tokens) : Read (List Expr) (tokens.length + 1) :=
  if next? tokens = some close then .ok (.nothing [] tokens)
  else do
    let ⟨exprs, rest, fewer⟩ ← readExprs tokens
    .ok ⟨exprs, rest, by omega⟩
termination_by tokens.length * 10 + 8
decreasing_by all_goals omega

/-- Reads one or more expressions with commas between them. -/
def readExprs (tokens : Tokens) : Read (List Expr) tokens.length := do
  let ⟨expr, rest, fewer⟩ ← readExpr tokens
  match rest, fewer with
  | ⟨_, .comma⟩ :: afterComma, fewer =>
    have shorter : afterComma.length + 1 < tokens.length := fewer
    let ⟨exprs, after, stillFewer⟩ ← readExprs afterComma
    .ok ⟨expr :: exprs, after, by omega⟩
  | rest, fewer => .ok ⟨[expr], rest, fewer⟩
termination_by tokens.length * 10 + 7
decreasing_by all_goals omega

/-- Reads an operand without operators: a literal, a name, an expression in parentheses or the
creation of a value. -/
def readPrimary (tokens : Tokens) : Read Expr tokens.length :=
  match tokens with
  | [] => .error ⟨lastLine, .unexpectedToken none⟩
  | ⟨line, token⟩ :: rest =>
    match literal? token, token with
    | some literal, _ => .ok (.first literal rest)
    | none, .lParen => do
      let ⟨inner, atClose, fewer⟩ ← readExpr rest
      let ⟨_, after, fewer₁⟩ ← expect lastLine .rParen "')'" atClose
      .ok ⟨.paren inner, after, by simp only [List.length_cons]; omega⟩
    | none, .word word =>
      if word = "true" then .ok (.first (.bool true) rest)
      else if word = "false" then .ok (.first (.bool false) rest)
      else if word = "null" then .ok (.first .null rest)
      else if word = "new" then do
        let ⟨created, after, fewer⟩ ← readCreation rest
        .ok ⟨created, after, by simp only [List.length_cons]; omega⟩
      else if isReserved word then .error ⟨line, .unexpectedKeyword word⟩
      else .ok (.first (.ident word) rest)
    | none, token => .error ⟨line, .unexpectedToken (some token)⟩
termination_by tokens.length * 10 + 2
decreasing_by all_goals simp only [List.length_cons] at *; omega

/-- Reads the type and the arguments of a created value. -/
def readCreation (tokens : Tokens) : Read Expr tokens.length := do
  let ⟨type, rest, fewer⟩ ← readTypeName lastLine tokens
  match rest, fewer with
  | ⟨_, .lParen⟩ :: afterOpen, fewer =>
    have shorter : afterOpen.length + 1 < tokens.length := fewer
    let ⟨args, atClose, fewer₁⟩ ← readArgs .rParen afterOpen
    let ⟨_, after, fewer₂⟩ ←
      expect lastLine .rParen "')' to close constructor arguments" atClose
    if next? after = some .lBrace then faultAt lastLine after .objectInitializer
    else .ok ⟨.create type args, after, by omega⟩
  | rest, _ => faultAt lastLine rest .arrayCreation
termination_by tokens.length * 10 + 1
decreasing_by all_goals omega

end

end Storefront.Script
