import Storefront.Script.Token

/-!
What can be wrong with a script. Every cause has a constructor, and `Fault.message` words them all.
-/

namespace Storefront.Script

/-- The reason why a text is not a script: first the causes within a token, then those among
tokens. -/
inductive Fault where
  | unterminatedComment
  | unterminatedString
  | unterminatedEscape
  | unsupportedEscape (escape : Char)
  | malformedCharacter
  | unterminatedCharacter
  | interpolatedString
  | unexpectedCharacter (c : Char)
  | invalidHex (digits : String)
  | invalidInteger (digits : String)
  | expected (what : String) (found : Option Token)
  | unexpectedToken (found : Option Token)
  | unexpectedKeyword (keyword : String)
  | unterminatedParameters
  | unterminatedBlock
  | unterminatedSwitch
  | unsupportedStatement (keyword : String)
  | unsupportedArgument (modifier : String)
  | missingIn
  | missingWhile
  | missingMemberName
  | caseGuard
  | genericType
  | genericCall
  | lambda
  | arrayCreation
  | objectInitializer
  deriving DecidableEq, Repr

namespace Fault

/-- The wording of a fault. -/
def message : Fault → String
  | unterminatedComment => "unterminated block comment"
  | unterminatedString => "unterminated string literal"
  | unterminatedEscape => "unterminated escape sequence"
  | unsupportedEscape escape => "unsupported escape sequence '\\" ++ escape.toString ++ "'"
  | malformedCharacter => "malformed character literal"
  | unterminatedCharacter => "unterminated character literal"
  | interpolatedString => "interpolated strings are not supported"
  | unexpectedCharacter c => "unexpected character '" ++ c.toString ++ "'"
  | invalidHex digits => "invalid hex literal 0x" ++ digits
  | invalidInteger digits => "invalid integer literal " ++ digits
  | expected what found => "expected " ++ what ++ ", got " ++ Token.describeNext found
  | unexpectedToken found =>
    "unexpected token " ++ Token.describeNext found ++ " in expression"
  | unexpectedKeyword keyword => "unexpected keyword '" ++ keyword ++ "' in expression"
  | unterminatedParameters => "unterminated parameter list"
  | unterminatedBlock => "unexpected end of input, expected '\x7d'"
  | unterminatedSwitch => "unexpected end of input in switch"
  | unsupportedStatement keyword => "'" ++ keyword ++ "' statements are not supported"
  | unsupportedArgument modifier => "'" ++ modifier ++ "' arguments are not supported"
  | missingIn => "expected 'in' in foreach"
  | missingWhile => "expected 'while' after do body"
  | missingMemberName => "expected member name after '.'"
  | caseGuard => "case guards are not supported"
  | genericType => "generic types are not supported"
  | genericCall => "generic method calls are not supported"
  | lambda => "lambda expressions are not supported"
  | arrayCreation => "only 'new T(args)' creation is supported"
  | objectInitializer => "object initializers are not supported"

end Fault

/-- A fault and the line where it was found. -/
abbrev ParseError := Located Fault

/-- The fault with its line in front. -/
def ParseError.text (error : ParseError) : String :=
  "line " ++ toString error.line ++ ": " ++ error.value.message

end Storefront.Script
