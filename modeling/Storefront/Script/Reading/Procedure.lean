import Storefront.Script.Reading.Stmt

/-!
Whole texts: an expression, or a procedure. A procedure is given either as its statements alone or
as one method declaration around them.
-/

namespace Storefront.Script

/-! ### Method headers -/

/-- The tokens after any attributes in brackets; `depth` brackets are still open. -/
def afterAttributes : (depth : Nat) → Tokens → Tokens
  | 0, ⟨_, .lBracket⟩ :: rest => afterAttributes 1 rest
  | 0, tokens => tokens
  | depth + 1, ⟨_, .lBracket⟩ :: rest => afterAttributes (depth + 2) rest
  | depth + 1, ⟨_, .rBracket⟩ :: rest => afterAttributes depth rest
  | depth + 1, _ :: rest => afterAttributes (depth + 1) rest
  | _ + 1, [] => []

/-- Whether a token may stand in a method header before its parameters. -/
def isHeaderToken (token : Located Token) : Bool :=
  match token.value with
  | .word _ | .dot | .lBracket | .rBracket => true
  | _ => false

/-- Whether a run of tokens, last one first, ends in a type and a name. -/
def endsInTypeAndName : Tokens → Bool
  | ⟨_, .word _⟩ :: ⟨_, .word type⟩ :: _ => !isReserved type
  | _ => false

/-- Whether a method header starts here: a run of words that ends in two adjacent names, directly
before a parenthesis. -/
def startsMethodHeader (tokens : Tokens) : Bool :=
  endsInTypeAndName (tokens.takeWhile isHeaderToken).reverse &&
    next? (tokens.dropWhile isHeaderToken) = some .lParen

/-- The tokens after a list of parameters, of which `depth` parentheses are still open; none if it
is not closed. -/
def afterParameters? : (depth : Nat) → Tokens → Option Tokens
  | _, [] => none
  | depth, ⟨_, .lParen⟩ :: rest => afterParameters? (depth + 1) rest
  | 1, ⟨_, .rParen⟩ :: rest => some rest
  | depth, ⟨_, .rParen⟩ :: rest => afterParameters? (depth - 1) rest
  | depth, _ :: rest => afterParameters? depth rest

/-! ### Whole texts -/

/-- Makes sure that the text ends here; `what` describes its end. -/
def expectEnd (lastLine : Nat) (what : String) (tokens : Tokens) : Except ParseError Unit :=
  match tokens with
  | [] => .ok ()
  | token :: rest => faultAt lastLine (token :: rest) (.expected what (some token.value))

/-- Reads statements up to the end of the text. -/
def readToEnd (lastLine : Nat) (tokens : Tokens) : Except ParseError (List Stmt) :=
  match tokens with
  | [] => .ok []
  | token :: more => do
    let ⟨stmt, rest, _⟩ ← readStmt lastLine (token :: more)
    let stmts ← readToEnd lastLine rest
    .ok (stmt :: stmts)
termination_by tokens.length
decreasing_by simp only [List.length_cons] at *; omega

/-- Reads the body of a method from its parameters on. -/
def readMethod (lastLine : Nat) (tokens : Tokens) : Except ParseError (List Stmt) := do
  match afterParameters? 0 (tokens.dropWhile isHeaderToken) with
  | none => .error ⟨lastLine, .unterminatedParameters⟩
  | some afterHeader =>
    let ⟨_, afterOpen, _⟩ ← expect lastLine .lBrace "'\x7b' to open method body" afterHeader
    let ⟨body, after, _⟩ ← readBlock lastLine "'\x7d' to close method body" afterOpen
    expectEnd lastLine "end of input after method body" after
    .ok body

/-- Reads the statements of a procedure. -/
def readProcedure (lexed : Lexed) : Except ParseError (List Stmt) :=
  let tokens := afterAttributes 0 lexed.tokens
  if startsMethodHeader tokens then readMethod lexed.lastLine tokens
  else readToEnd lexed.lastLine tokens

/-- The expression that a text consists of. -/
def parseExpr (text : String) : Except ParseError Expr := do
  let lexed ← lex text
  let ⟨expr, after, _⟩ ← readExpr lexed.lastLine lexed.tokens
  expectEnd lexed.lastLine "end of expression" after
  .ok expr

/-- The statements of the procedure that a text consists of. -/
def parseProcedure (text : String) : Except ParseError (List Stmt) := do
  let lexed ← lex text
  readProcedure lexed

end Storefront.Script
