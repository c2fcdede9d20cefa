import Storefront.Number.Shortest
import Storefront.Text.Quoted

/-!
The tokens of patterns, what can be wrong with the text of a pattern, and the wording of both.
-/

namespace Storefront.Pattern

open Storefront.Number Storefront.Text

/-- The smallest meaningful unit of a pattern. -/
inductive Token where
  | lParen | rParen | lBrace | rBrace | lBracket | rBracket
  | capture | wildcard | rest | negation | pipe
  | helper (name : String)
  | symbol (name : String)
  | symbolStart (start : String)
  | int (value : Int)
  | float (value : Double)
  | str (value : String)
  | ident (name : String)
  deriving DecidableEq, Repr

namespace Token

/-- The name of the token's kind. -/
def name : Token → String
  | lParen => "LParen"
  | rParen => "RParen"
  | lBrace => "LBrace"
  | rBrace => "RBrace"
  | lBracket => "LBracket"
  | rBracket => "RBracket"
  | capture => "Capture"
  | wildcard => "Wildcard"
  | rest => "Rest"
  | negation => "Negation"
  | pipe => "Pipe"
  | helper _ => "HelperCall"
  | symbol _ => "SymbolLiteral"
  | symbolStart _ => "SymbolPrefix"
  | int _ => "IntLiteral"
  | float _ => "FloatLiteral"
  | str _ => "StringLiteral"
  | ident _ => "Ident"

/-- The token as a message shows it: its name, and what it carries in parentheses. -/
def describe (token : Token) : String :=
  match token with
  | helper text | symbol text | symbolStart text | str text | ident text =>
    token.name ++ "(" ++ quoted text ++ ")"
  | int value => token.name ++ "(" ++ toString value ++ ")"
  | float value => token.name ++ "(" ++ value.text .compact ++ ")"
  | _ => token.name

/-- The next token as a message shows it, the end of the pattern included. -/
def describeNext : Option Token → String
  | some token => token.describe
  | none => "end of pattern"

end Token

/-- The reason why a text is not a pattern: first the causes within a token, then those among
tokens. -/
inductive Fault where
  | strayDot (offset : Nat)
  | emptyHelperName
  | emptySymbol
  | unterminatedString
  | invalidFloat (text : String)
  | invalidInteger (text : String)
  | unexpectedCharacter (shown : Char) (offset : Nat)
  | missingClose (close : Token)
  | missingNodeType (found : Option Token)
  | missingPattern
  | unexpectedToken (found : Token)
  | emptyAlternatives
  | trailingToken (found : Token)
  deriving DecidableEq, Repr

/-- The wording of a fault. -/
def Fault.message : Fault → String
  | strayDot offset => "stray '.' at offset " ++ toString offset
  | emptyHelperName => "empty helper name after '#'"
  | emptySymbol => "empty symbol after ':'"
  | unterminatedString => "unterminated string literal"
  | invalidFloat text => "invalid float " ++ text
  | invalidInteger text => "invalid integer " ++ text
  | unexpectedCharacter shown offset =>
    "unexpected character '" ++ shown.toString ++ "' at offset " ++ toString offset
  | missingClose close => "expected " ++ close.describe ++ ", got end of pattern"
  | missingNodeType found => "expected node type, got " ++ Token.describeNext found
  | missingPattern => "unexpected end of pattern"
  | unexpectedToken found => "unexpected " ++ found.describe
  | emptyAlternatives => "empty alternatives"
  | trailingToken found => "trailing token " ++ found.describe

end Storefront.Pattern
