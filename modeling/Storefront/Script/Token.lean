import Storefront.Number.Shortest
import Storefront.Script.Operator
import Storefront.Text.Quoted

/-!
The tokens of setup scripts, and how messages show them.
-/

namespace Storefront.Script

open Storefront.Number Storefront.Text

/-- Something found at a line of a text. Lines count from one. -/
structure Located (α : Type) where
  line : Nat
  value : α
  deriving DecidableEq, Repr

/-- The smallest meaningful unit of a script. Keywords are words: only the grammar tells them from
names. -/
inductive Token where
  | word (text : String)
  | int (value : Int)
  | float (value : Double)
  | str (value : String)
  | char (value : Char)
  | lParen | rParen | lBrace | rBrace | lBracket | rBracket
  | semi | comma | dot | colon | question
  /-- A plain assignment, or one that applies an operator first. -/
  | assign (op : Option BinaryOp)
  | eqEq | notEq | lt | le | gt | ge
  | andAnd | orOr | bang | tilde
  | plus | minus | star | slash | percent
  | amp | pipe | caret | shl | shr
  | plusPlus | minusMinus
  | arrow
  deriving DecidableEq, Repr

namespace Token

/-- The name of the token's kind. -/
def name : Token → String
  | word _ => "Word"
  | int _ => "Int"
  | float _ => "Float"
  | str _ => "Str"
  | char _ => "Char"
  | lParen => "LParen"
  | rParen => "RParen"
  | lBrace => "LBrace"
  | rBrace => "RBrace"
  | lBracket => "LBracket"
  | rBracket => "RBracket"
  | semi => "Semi"
  | comma => "Comma"
  | dot => "Dot"
  | colon => "Colon"
  | question => "Question"
  | assign _ => "Assign"
  | eqEq => "EqEq"
  | notEq => "NotEq"
  | lt => "Lt"
  | le => "Le"
  | gt => "Gt"
  | ge => "Ge"
  | andAnd => "AndAnd"
  | orOr => "OrOr"
  | bang => "Bang"
  | tilde => "Tilde"
  | plus => "Plus"
  | minus => "Minus"
  | star => "Star"
  | slash => "Slash"
  | percent => "Percent"
  | amp => "Amp"
  | pipe => "Pipe"
  | caret => "Caret"
  | shl => "Shl"
  | shr => "Shr"
  | plusPlus => "PlusPlus"
  | minusMinus => "MinusMinus"
  | arrow => "Arrow"

/-- The token as a message shows it: its name, and what it carries in parentheses. -/
def describe (token : Token) : String :=
  match token with
  | word text => "Word(" ++ quoted text ++ ")"
  | int value => "Int(" ++ toString value ++ ")"
  | float value => "Float(" ++ value.text .compact ++ ")"
  | str value => "Str(" ++ quoted value ++ ")"
  | char value => "Char(" ++ quotedChar value ++ ")"
  | assign none => "Assign(None)"
  | assign (some op) => "Assign(Some(" ++ op.title ++ "))"
  | other => other.name

/-- The next token as a message shows it, the end of the text included. -/
def describeNext : Option Token → String
  | some token => token.describe
  | none => "Eof"

end Token

end Storefront.Script
