import Storefront.Reading
import Storefront.Script.Lexer

/-!
Reading tokens. A reader takes the tokens that are left, and either finds a fault or returns what it
read together with the tokens after it. Here are the readers of single tokens, names and types, and
the look ahead that tells a declaration from an expression.
-/

namespace Storefront.Script

/-- The tokens that are left to read. -/
abbrev Tokens := List (Located Token)

/-- The outcome of a reader: a fault at a line, or what it read. -/
abbrev Read (α : Type) (bound : Nat) := Except ParseError (Reading (Located Token) α bound)

/-- The next token; there is none at the end of the text. -/
def next? (tokens : Tokens) : Option Token := tokens.head?.map Located.value

/-- The line of the next token, or the line on which the text ends. -/
def nextLine (lastLine : Nat) (tokens : Tokens) : Nat :=
  (tokens.head?.map Located.line).getD lastLine

/-- A fault at the next token. -/
def faultAt {α : Type} (lastLine : Nat) (tokens : Tokens) (fault : Fault) :
    Except ParseError α :=
  .error ⟨nextLine lastLine tokens, fault⟩

/-- Reads one given token; `what` describes it in the fault when another one stands there. -/
def expect (lastLine : Nat) (token : Token) (what : String) (tokens : Tokens) :
    Read Unit tokens.length :=
  match tokens with
  | found :: rest =>
    if found.value = token then .ok (.first () rest)
    else faultAt lastLine (found :: rest) (.expected what (some found.value))
  | [] => faultAt lastLine [] (.expected what none)

/-! ### Names -/

/-- The words that are never names. -/
def reservedWords : List String := [
  "if", "else", "switch", "case", "default", "for", "foreach", "while", "do", "break",
  "continue", "return", "new", "true", "false", "null", "in", "goto", "throw", "try",
  "catch", "finally", "using", "lock", "is", "as"]

def isReserved (word : String) : Bool := reservedWords.contains word

/-- The names of the types that a cast may name. -/
def primitiveTypes : List String := [
  "bool", "byte", "sbyte", "short", "ushort", "int", "uint", "long", "ulong", "float",
  "double", "decimal", "char", "string", "object"]

def isPrimitiveType (word : String) : Bool := primitiveTypes.contains word

/-- Reads a name: a word that is not reserved. -/
def readName (lastLine : Nat) (tokens : Tokens) : Read String tokens.length :=
  match tokens with
  | ⟨line, .word word⟩ :: rest =>
    if isReserved word then
      faultAt lastLine (⟨line, .word word⟩ :: rest) (.expected "identifier" (some (.word word)))
    else .ok (.first word rest)
  | tokens => faultAt lastLine tokens (.expected "identifier" (next? tokens))

/-! ### Type names -/

/-- Reads what may follow the first word of a type name: dotted words, and any number of `[]` and
`?`. The text read so far is `name`. -/
def readTypeSuffix (lastLine : Nat) (name : String) :
    (tokens : Tokens) → Read String (tokens.length + 1)
  | ⟨_, .dot⟩ :: ⟨_, .word word⟩ :: rest => do
    let ⟨whole, after, fewer⟩ ← readTypeSuffix lastLine (name ++ "." ++ word) rest
    .ok ⟨whole, after, by simp only [List.length_cons]; omega⟩
  | ⟨_, .lBracket⟩ :: ⟨_, .rBracket⟩ :: rest => do
    let ⟨whole, after, fewer⟩ ← readTypeSuffix lastLine (name ++ "[]") rest
    .ok ⟨whole, after, by simp only [List.length_cons]; omega⟩
  | ⟨_, .question⟩ :: rest => do
    let ⟨whole, after, fewer⟩ ← readTypeSuffix lastLine (name ++ "?") rest
    .ok ⟨whole, after, by simp only [List.length_cons]; omega⟩
  | ⟨line, .lt⟩ :: rest => faultAt lastLine (⟨line, .lt⟩ :: rest) .genericType
  | tokens => .ok (.nothing name tokens)

/-- Reads the name of a type. -/
def readTypeName (lastLine : Nat) (tokens : Tokens) : Read String tokens.length := do
  let ⟨name, rest, fewer⟩ ← readName lastLine tokens
  let ⟨whole, after, stillFewer⟩ ← readTypeSuffix lastLine name rest
  .ok ⟨whole, after, by omega⟩

/-! ### Looking ahead for a declaration -/

/-- The tokens after everything that may follow the first word of a type name. -/
def afterTypeSuffix : Tokens → Tokens
  | ⟨_, .dot⟩ :: ⟨_, .word _⟩ :: rest => afterTypeSuffix rest
  | ⟨_, .lBracket⟩ :: ⟨_, .rBracket⟩ :: rest => afterTypeSuffix rest
  | ⟨_, .question⟩ :: rest => afterTypeSuffix rest
  | tokens => tokens

/-- Whether a token may follow the first declared name. -/
def followsDeclaredName : Token → Bool
  | .assign none | .semi | .comma => true
  | _ => false

/-- Whether the tokens start with a name and what may follow a declared name. -/
def startsDeclared : Tokens → Bool
  | ⟨_, .word name⟩ :: ⟨_, following⟩ :: _ => !isReserved name && followsDeclaredName following
  | _ => false

/-- Whether a declaration starts here: a type, a name, and then `=`, `;` or a comma. -/
def startsDeclaration : Tokens → Bool
  | ⟨_, .word type⟩ :: rest => !isReserved type && startsDeclared (afterTypeSuffix rest)
  | _ => false

end Storefront.Script
