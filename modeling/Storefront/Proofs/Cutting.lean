import Storefront.Proofs.Cursor
import Storefront.Script.Lexer

/-!
Cutting as a machine does it: all characters of a text stand in one list, and a position moves
forward through it. A character is looked up by its index and a stretch by its ends, as they are,
so either can lie outside the list. What is found goes to the end of a list of items, and the mark
follows when no characters are left.
-/

namespace Storefront.Script.Cursor

open Lexer Storefront.Text Storefront.Number

variable (chars : List Char)

/-! ### Characters and stretches -/

/-- The character at an index. -/
def charAt (index : Nat) : Run Char :=
  match chars[index]? with
  | some c => pure c
  | none => throw .indexOutOfRange

/-- The characters from one index up to another. -/
def stretch (start stop : Nat) : Run (List Char) :=
  if start ≤ stop ∧ stop ≤ chars.length then pure ((chars.drop start).take (stop - start))
  else throw .indexOutOfRange

/-- The character some places after the position, if there is one. -/
def charAhead (places : Nat) : Run (Option Char) := do
  let position ← get
  pure chars[position + places]?

/-- Goes some places on. -/
def goOn (places : Nat) : Run Unit := do
  let position ← get
  set (position + places)

/-- Goes over all characters of a kind. -/
def goOver (kind : Char → Bool) : (steps : Nat) → Run Unit
  | 0 => timeout
  | steps + 1 => do
    let position ← get
    if position < chars.length then do
      let c ← charAt chars position
      if kind c then do
        goOn 1
        goOver kind steps
      else pure ()
    else pure ()

/-- Takes all characters of a kind. -/
def takeOver (kind : Char → Bool) (steps : Nat) : Run (List Char) := do
  let start ← get
  goOver chars kind steps
  let stop ← get
  stretch chars start stop

/-- Stops with a fault on a line. -/
def faultOn {α : Type} (line : Nat) (fault : Fault) : Run α := throw (.fault ⟨line, fault⟩)

/-! ### Comments, strings and characters -/

/-- Goes to the end of a block comment; `breaks` line breaks are behind. -/
def cutComment (line : Nat) : (steps breaks : Nat) → Run Nat
  | 0, _ => timeout
  | steps + 1, breaks => do
    let position ← get
    if chars.length ≤ position then faultOn line .unterminatedComment
    else do
      let c ← charAt chars position
      let following ← charAhead chars 1
      if c = '*' ∧ following = some '/' then do
        goOn 2
        pure breaks
      else do
        goOn 1
        cutComment line steps (if c = '\n' then breaks + 1 else breaks)

/-- Takes an escape from its backslash on. -/
def cutEscape (line : Nat) : Run Char := do
  let mark ← charAhead chars 1
  match mark with
  | none => faultOn line .unterminatedEscape
  | some mark =>
    match escapeMeaning? mark with
    | none => faultOn line (.unsupportedEscape mark)
    | some meaning => do
      goOn 2
      pure meaning

/-- Takes the rest of a string: its content, and the line breaks in it. -/
def cutString (line : Nat) (verbatim : Bool) :
    (steps : Nat) → (content : List Char) → (breaks : Nat) → Run (List Char × Nat)
  | 0, _, _ => timeout
  | steps + 1, content, breaks => do
    let next ← charAhead chars 0
    let following ← charAhead chars 1
    match next with
    | none => faultOn line .unterminatedString
    | some c =>
      if c = '"' then
        if verbatim ∧ following = some '"' then do
          goOn 2
          cutString line verbatim steps (content ++ ['"']) breaks
        else do
          goOn 1
          pure (content, breaks)
      else if c = '\n' ∧ !verbatim then faultOn line .unterminatedString
      else if c = '\\' ∧ !verbatim then do
        let meaning ← cutEscape chars line
        cutString line verbatim steps (content ++ [meaning]) breaks
      else do
        goOn 1
        cutString line verbatim steps (content ++ [c]) (if c = '\n' then breaks + 1 else breaks)

/-- Takes the character of a character literal. -/
def cutLiteral (line : Nat) : Run Char := do
  let next ← charAhead chars 0
  match next with
  | none => faultOn line .malformedCharacter
  | some c =>
    if c = '\\' then cutEscape chars line
    else if c = '\'' ∨ c = '\n' then faultOn line .malformedCharacter
    else do
      goOn 1
      pure c

/-- Takes a character literal from its opening mark on. -/
def cutCharacter (line : Nat) : Run Token := do
  goOn 1
  let c ← cutLiteral chars line
  let closing ← charAhead chars 0
  if closing = some '\'' then do
    goOn 1
    pure (.char c)
  else faultOn line .unterminatedCharacter

/-! ### Numbers -/

/-- Takes a hexadecimal number from its `0x` on. -/
def cutHex (line steps : Nat) : Run Token := do
  goOn 2
  let digits ← takeOver chars isHexDigitOrGap steps
  let digits := digits.filter (· != '_')
  if digits.isEmpty || greatestInt < valueOf 16 digits then
    faultOn line (.invalidHex (String.ofList digits))
  else do
    goOver chars isIntSuffix steps
    pure (.int (valueOf 16 digits))

/-- Takes a fraction if one is at the position. -/
def cutFraction (steps : Nat) : Run (Option (List Char)) := do
  let point ← charAhead chars 0
  let digit ← charAhead chars 1
  if point = some '.' ∧ digit.any Char.isDigit then do
    goOn 1
    let places ← takeOver chars isDigitOrGap steps
    pure (some places)
  else pure none

/-- Whether a character may stand before the digits of an exponent. -/
def isSign (c : Char) : Bool := c == '+' || c == '-'

/-- Takes an exponent if one is at the position. -/
def cutExponent (steps : Nat) : Run (Option Int) := do
  let mark ← charAhead chars 0
  if mark = some 'e' ∨ mark = some 'E' then do
    let sign ← charAhead chars 1
    let places := if sign.any isSign then 2 else 1
    let digit ← charAhead chars places
    if digit.any Char.isDigit then do
      goOn places
      let digits ← takeOver chars Char.isDigit steps
      let size : Int := valueOf 10 digits
      pure (some (if sign = some '-' then -size else size))
    else pure none
  else pure none

/-- Takes the letter that makes a number a real one if it is at the position. -/
def cutRealSuffix : Run Bool := do
  let letter ← charAhead chars 0
  if letter.any isRealSuffix then do
    goOn 1
    pure true
  else pure false

/-- Takes a decimal number. -/
def cutDecimal (line steps : Nat) : Run Token := do
  let whole ← takeOver chars isDigitOrGap steps
  let whole := whole.filter (· != '_')
  let places? ← cutFraction chars steps
  let exponent? ← cutExponent chars steps
  let isReal ← cutRealSuffix chars
  if places?.isSome || exponent?.isSome || isReal then
    let places := (places?.getD []).filter (· != '_')
    let digits := valueOf 10 (whole ++ places)
    pure (.float (.ofDecimal false digits (exponent?.getD 0 - places.length)))
  else if greatestInt < valueOf 10 whole then
    faultOn line (.invalidInteger (String.ofList whole))
  else do
    goOver chars isIntSuffix steps
    pure (.int (valueOf 10 whole))

/-- Takes a number. -/
def cutNumber (line steps : Nat) : Run Token := do
  let position ← get
  let first ← charAt chars position
  let mark ← charAhead chars 1
  if first = '0' ∧ (mark = some 'x' ∨ mark = some 'X') then cutHex chars line steps
  else cutDecimal chars line steps

/-! ### Tokens -/

/-- Whether a spelling stands at an index. -/
def spelledAt : (spelling : List Char) → (index : Nat) → Bool
  | [], _ => true
  | c :: spelling, index => chars[index]? == some c && spelledAt spelling (index + 1)

/-- Takes a token with a fixed spelling; `c` is at the position. -/
def cutFixed (line : Nat) (c : Char) : Run Token := do
  let position ← get
  match fixedTokens.find? fun entry => spelledAt chars entry.1 position with
  | some entry => do
    goOn entry.1.length
    pure entry.2
  | none => faultOn line (.unexpectedCharacter c)

/-- What is taken at once: a token, or nothing for what is passed over, the line breaks in it, and
whether what follows has only blanks before it on its line. -/
structure Cut where
  token : Option Token
  breaks : Nat
  fresh : Bool

/-- What is taken for a token within one line. -/
def Cut.ofToken (token : Token) : Cut := ⟨some token, 0, false⟩

/-- Takes a token; `c` is at the position. -/
def cutToken (line steps : Nat) (c : Char) : Run Cut := do
  let following ← charAhead chars 1
  if c.isDigit ∨ (c = '.' ∧ following.any Char.isDigit) then do
    let token ← cutNumber chars line steps
    pure (.ofToken token)
  else if startsWord c ∨ (c = '@' ∧ following ≠ some '"') then do
    goOn (if c = '@' then 1 else 0)
    let word ← takeOver chars continuesWord steps
    pure (.ofToken (.word (String.ofList word)))
  else if c = '"' ∨ c = '@' then do
    goOn (if c = '@' then 2 else 1)
    let found ← cutString chars line (c == '@') steps [] 0
    pure ⟨some (.str (String.ofList found.1)), found.2, false⟩
  else if c = '\'' then do
    let token ← cutCharacter chars line
    pure (.ofToken token)
  else if c = '$' ∧ following = some '"' then faultOn line .interpolatedString
  else do
    let token ← cutFixed chars line c
    pure (.ofToken token)

/-- Takes a token or what is passed over; `c` is at the position. -/
def cutPiece (line steps : Nat) (fresh : Bool) (c : Char) : Run Cut := do
  let following ← charAhead chars 1
  if c = '\n' then do
    goOn 1
    pure ⟨none, 1, true⟩
  else if isBlank c then do
    goOn 1
    pure ⟨none, 0, fresh⟩
  else if c = '#' ∧ fresh then do
    goOver chars (· != '\n') steps
    pure ⟨none, 0, true⟩
  else if c = '/' ∧ following = some '/' then do
    goOver chars (· != '\n') steps
    pure ⟨none, 0, false⟩
  else if c = '/' ∧ following = some '*' then do
    goOn 2
    let breaks ← cutComment chars line steps 0
    pure ⟨none, breaks, false⟩
  else cutToken chars line steps c

/-! ### Whole texts -/

/-- Cuts all that is left of a text; `items` have been found. -/
def cutRest : (steps line : Nat) → (fresh : Bool) → (items : List Item) → Run (List Item)
  | 0, _, _, _ => timeout
  | steps + 1, line, fresh, items => do
    let position ← get
    if position < chars.length then do
      let c ← charAt chars position
      let found ← cutPiece chars line steps fresh c
      cutRest steps (line + found.breaks) found.fresh
        (items ++ (found.token.map fun token => (⟨line, some token⟩ : Item)).toList)
    else pure (items ++ [⟨line, none⟩])

/-- Cuts a text. -/
def cut (text : String) (steps : Nat) : Run (List Item) :=
  cutRest text.toList steps 1 true []

end Storefront.Script.Cursor
