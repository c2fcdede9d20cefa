import Storefront.Pattern.Basic
import Storefront.Pattern.Lexer
import Storefront.Reading

/-!
Reading patterns. A pattern starts with a token that tells its form; brackets enclose lists of
patterns, and the strokes between alternatives are optional.
-/

namespace Storefront.Pattern

/-- The outcome of a reader of patterns. -/
abbrev Read (α : Type) (bound : Nat) := Except Fault (Reading Token α bound)

/-- What a word that stands alone means. -/
def ofWord (word : String) : Pattern :=
  if word = "true" then .bool true
  else if word = "false" then .bool false
  else if word = "null" then .null
  else .ofKind word

/-- Reads the token that closes a list. -/
def readClose (close : Token) (tokens : List Token) : Read PUnit tokens.length :=
  match tokens with
  | _ :: rest => .ok (.first () rest)
  | [] => .error (.missingClose close)

/-- Reads the kind of expression that a node describes. -/
def readKind (tokens : List Token) : Read String tokens.length :=
  match tokens with
  | .ident kind :: rest => .ok (.first kind rest)
  | tokens => .error (.missingNodeType tokens.head?)

/-- A pattern that consists of one token. -/
def ofToken? : Token → Option Pattern
  | .wildcard => some .wildcard
  | .rest => some .remaining
  | .helper name => some (.helper name)
  | .symbol name => some (.symbol name)
  | .symbolStart start => some (.symbolStart start)
  | .int value => some (.int value)
  | .float value => some (.float value)
  | .str value => some (.str value)
  | .ident word => some (ofWord word)
  | _ => none

mutual

/-- Reads one pattern. -/
def readPattern (tokens : List Token) : Read Pattern tokens.length :=
  match tokens with
  | [] => .error .missingPattern
  | .lParen :: rest => do
    let ⟨kind, afterKind, fewer₁⟩ ← readKind rest
    let ⟨children, atClose, fewer₂⟩ ← readPatterns .rParen afterKind
    let ⟨_, after, fewer₃⟩ ← readClose .rParen atClose
    .ok ⟨.node kind children, after, by simp only [List.length_cons]; omega⟩
  | .lBrace :: rest => do
    let ⟨options, atClose, fewer₁⟩ ← readOptions rest
    let ⟨_, after, fewer₂⟩ ← readClose .rBrace atClose
    if options.isEmpty then .error .emptyAlternatives
    else .ok ⟨.alternatives options, after, by simp only [List.length_cons]; omega⟩
  | .lBracket :: rest => do
    let ⟨parts, atClose, fewer₁⟩ ← readPatterns .rBracket rest
    let ⟨_, after, fewer₂⟩ ← readClose .rBracket atClose
    .ok ⟨.conjunction parts, after, by simp only [List.length_cons]; omega⟩
  | .capture :: rest => do
    let ⟨inner, after, fewer⟩ ← readPattern rest
    .ok ⟨.capture inner, after, by simp only [List.length_cons]; omega⟩
  | .negation :: rest => do
    let ⟨inner, after, fewer⟩ ← readPattern rest
    .ok ⟨.negation inner, after, by simp only [List.length_cons]; omega⟩
  | token :: rest =>
    match ofToken? token with
    | some pattern => .ok (.first pattern rest)
    | none => .error (.unexpectedToken token)
termination_by tokens.length * 2
decreasing_by all_goals simp only [List.length_cons] at *; omega

/-- Reads patterns up to the token that closes them or the end, which is left. -/
def readPatterns (close : Token) (tokens : List Token) :
    Read (List Pattern) (tokens.length + 1) :=
  match tokens with
  | [] => .ok (.nothing [] [])
  | token :: rest =>
    if token = close then .ok (.nothing [] (token :: rest))
    else do
      let ⟨pattern, others, fewer₁⟩ ← readPattern (token :: rest)
      let ⟨patterns, after, fewer₂⟩ ← readPatterns close others
      .ok ⟨pattern :: patterns, after, by omega⟩
termination_by tokens.length * 2 + 1
decreasing_by all_goals simp only [List.length_cons] at *; omega

/-- Reads alternatives up to the brace that closes them or the end, which is left. -/
def readOptions (tokens : List Token) : Read (List Pattern) (tokens.length + 1) :=
  match tokens with
  | [] => .ok (.nothing [] [])
  | .rBrace :: rest => .ok (.nothing [] (.rBrace :: rest))
  | .pipe :: rest => do
    let ⟨options, after, fewer⟩ ← readOptions rest
    .ok ⟨options, after, by simp only [List.length_cons]; omega⟩
  | token :: rest => do
    let ⟨pattern, others, fewer₁⟩ ← readPattern (token :: rest)
    let ⟨options, after, fewer₂⟩ ← readOptions others
    .ok ⟨pattern :: options, after, by omega⟩
termination_by tokens.length * 2 + 1
decreasing_by all_goals simp only [List.length_cons] at *; omega

end

/-- The one pattern that tokens consist of. -/
def ofTokens (tokens : List Token) : Except Fault Pattern := do
  let ⟨pattern, after, _⟩ ← readPattern tokens
  match after with
  | [] => .ok pattern
  | token :: _ => .error (.trailingToken token)

/-- The pattern of a text, as it is written. -/
def parse (text : String) : Except Fault Pattern := do
  let tokens ← lex text
  ofTokens tokens

end Storefront.Pattern
