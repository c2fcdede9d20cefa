import Storefront.Script.Reading.Procedure

/-!
Reading as a machine does it: all tokens of a text stand in one list that ends with a mark, and a
position in the list moves forward. Nothing is bounded beforehand. An index is looked up as it is,
a count is taken down as it is, a number is negated as it is, and a loop goes on until it stops by
itself. Each of these can go wrong: a run that looks beyond the list, takes a count below zero or
leaves the range of the machine's numbers stops with a reason of its own. A function that calls
itself or goes round in a loop gets as many steps as calls and rounds may be nested; a run that
needs more of them has no outcome, so a run that has none with any number of steps never ends.

This module has the machine, the readers of single tokens, names and types, and the scans over
attributes and method headers.
-/

namespace Storefront.Script.Cursor

/-- A token of the list, or the mark at its end. -/
abbrev Item := Located (Option Token)

/-- The item of a token. -/
def ofToken (token : Located Token) : Item := ⟨token.line, some token.value⟩

/-- The tokens of a text with the mark behind them. -/
def marked (lexed : Lexed) : List Item :=
  lexed.tokens.map ofToken ++ [⟨lexed.lastLine, none⟩]

/-- Whether all whole numbers in a list are within the range that a script can write. -/
def IntsInRange (items : List Item) : Prop :=
  ∀ (line : Nat) (value : Int), ⟨line, some (.int value)⟩ ∈ items →
    0 ≤ value ∧ value ≤ Lexer.greatestInt

/-- Why a run stops: the script has a fault, or the machine cannot go on. -/
inductive Stop where
  | fault (error : ParseError)
  | indexOutOfRange
  | countBelowZero
  | overflow
  /-- A type that was seen ahead is not there. -/
  | lostType

/-- A run moves a position, and comes to an end with a value, stops, or does not end in time. -/
abbrev Run := StateT Nat (ExceptT Stop Option)

/-- How a run ends, if it does: with a value and a position, or with the reason for its stop. -/
abbrev Outcome (α : Type) := ExceptT Stop Option (α × Nat)

/-- The run that does not end in time. -/
def timeout {α : Type} : Run α := fun _ => (none : Option (Except Stop (α × Nat)))

/-! ### What a machine can get wrong -/

/-- The item at an index. -/
def itemAt (items : List Item) (index : Nat) : Run Item :=
  match items[index]? with
  | some item => pure item
  | none => throw .indexOutOfRange

/-- The item some places before an index. -/
def itemBefore (items : List Item) (index places : Nat) : Run Item :=
  if index < places then throw .indexOutOfRange else itemAt items (index - places)

/-- One less than a count. -/
def countDown : (count : Nat) → Run Nat
  | 0 => throw .countBelowZero
  | lower + 1 => pure lower

/-- The same number with the other sign, in 64 bits. -/
def negate (value : Int) : Run Int :=
  if -value ≤ Lexer.greatestInt ∧ -(Lexer.greatestInt : Int) - 1 ≤ -value then pure (-value)
  else throw .overflow

/-- One more than the strength of an operator, in eight bits. -/
def oneTighter (strength : Nat) : Run Nat :=
  if strength + 1 ≤ 255 then pure (strength + 1) else throw .overflow

variable (items : List Item)

/-! ### Single tokens -/

/-- The item at the position; the mark from there on. -/
def current : Run Item := do
  let position ← get
  itemAt items (min position (items.length - 1))

/-- What stands at the position. -/
def peek : Run (Option Token) := do
  let item ← current items
  pure item.value

/-- What stands some places after the position. -/
def peekAt (places : Nat) : Run (Option Token) := do
  let position ← get
  let item ← itemAt items (min (position + places) (items.length - 1))
  pure item.value

/-- Takes the item at the position; the mark is never passed. -/
def advance : Run Item := do
  let item ← current items
  let position ← get
  if position < items.length - 1 then
    set (position + 1)
    pure item
  else pure item

/-- Stops with a fault at the position. -/
def faultHere {α : Type} (fault : Fault) : Run α := do
  let item ← current items
  throw (.fault ⟨item.line, fault⟩)

/-- Takes one given token, or the mark; `what` describes it in the fault when another one stands
there. -/
def expect (expected : Option Token) (what : String) : Run Unit := do
  let next ← peek items
  if next = expected then do
    let _ ← advance items
    pure ()
  else faultHere items (.expected what next)

/-- Takes a word if it stands at the position. -/
def eatWord (word : String) : Run Bool := do
  let next ← peek items
  if next = some (.word word) then do
    let _ ← advance items
    pure true
  else pure false

/-! ### Names and types -/

/-- Reads a name: a word that is not reserved. -/
def readName : Run String := do
  let next ← peek items
  match next with
  | some (.word word) =>
    if isReserved word then faultHere items (.expected "identifier" next)
    else do
      let _ ← advance items
      pure word
  | _ => faultHere items (.expected "identifier" next)

/-- Reads what may follow the first word of a type name. -/
def readTypeSuffix : (steps : Nat) → (name : String) → Run String
  | 0, _ => timeout
  | steps + 1, name => do
    let next ← peek items
    let following ← peekAt items 1
    match next, following with
    | some .dot, some (.word word) => do
      let _ ← advance items
      let _ ← advance items
      readTypeSuffix steps (name ++ "." ++ word)
    | some .lBracket, some .rBracket => do
      let _ ← advance items
      let _ ← advance items
      readTypeSuffix steps (name ++ "[]")
    | some .question, _ => do
      let _ ← advance items
      readTypeSuffix steps (name ++ "?")
    | some .lt, _ => faultHere items .genericType
    | _, _ => pure name

/-- Reads the name of a type. -/
def readTypeName (steps : Nat) : Run String := do
  let name ← readName items
  readTypeSuffix items steps name

/-- Where everything ends that may follow the first word of a type name, counted from the
position. -/
def typeEnd : (steps places : Nat) → Run Nat
  | 0, _ => timeout
  | steps + 1, places => do
    let next ← peekAt items places
    let following ← peekAt items (places + 1)
    match next, following with
    | some .dot, some (.word _) => typeEnd steps (places + 2)
    | some .lBracket, some .rBracket => typeEnd steps (places + 2)
    | some .question, _ => typeEnd steps (places + 1)
    | _, _ => pure places

/-- Whether a token is a word. -/
def isWord : Option Token → Bool
  | some (.word _) => true
  | _ => false

/-- Whether a token is a name. -/
def isName : Option Token → Bool
  | some (.word word) => !isReserved word
  | _ => false

/-- Whether a declaration starts at the position: a type, a name, and then `=`, `;` or a comma. -/
def atDeclaration (steps : Nat) : Run Bool := do
  let first ← peekAt items 0
  if isName first then do
    let places ← typeEnd items steps 1
    let name ← peekAt items places
    let following ← peekAt items (places + 1)
    pure (isName name && following.any followsDeclaredName)
  else pure false

/-! ### Method headers -/

/-- Takes everything up to the bracket that closes the last open one; `depth` are open. Tells
whether the text goes on behind it. -/
def closeBrackets : (steps depth : Nat) → Run Bool
  | 0, _ => timeout
  | steps + 1, depth => do
    let item ← advance items
    match item.value with
    | some .lBracket => closeBrackets steps (depth + 1)
    | some .rBracket => do
      let stillOpen ← countDown depth
      if stillOpen = 0 then pure true else closeBrackets steps stillOpen
    | none => pure false
    | some _ => closeBrackets steps depth

/-- Takes attributes in brackets. -/
def skipAttributes : (steps : Nat) → Run Unit
  | 0 => timeout
  | steps + 1 => do
    let next ← peek items
    if next = some .lBracket then do
      let goesOn ← closeBrackets items steps 0
      if goesOn then skipAttributes steps else pure ()
    else pure ()

/-- Whether a token may stand in a method header before its parameters. -/
def inHeader : Option Token → Bool
  | some (.word _) | some .dot | some .lBracket | some .rBracket => true
  | _ => false

/-- The first index from one on whose item may not stand in a method header. -/
def headerEnd : (steps index : Nat) → Run Nat
  | 0, _ => timeout
  | steps + 1, index => do
    let item ← itemAt items index
    if inHeader item.value then headerEnd steps (index + 1) else pure index

/-- Whether a method header starts at the position. -/
def atMethodHeader (steps : Nat) : Run Bool := do
  let position ← get
  let index ← headerEnd items steps position
  if index < position + 2 then pure false
  else do
    let opening ← itemAt items index
    let name ← itemBefore items index 1
    let type ← itemBefore items index 2
    pure (opening.value = some .lParen && isWord name.value && isName type.value)

/-- Takes everything before the parameters. -/
def seekParameters : (steps : Nat) → Run Unit
  | 0 => timeout
  | steps + 1 => do
    let next ← peek items
    if next = some .lParen then pure ()
    else do
      let _ ← advance items
      seekParameters steps

/-- Takes everything up to the parenthesis that closes the last open one; `depth` are open. -/
def closeParameters : (steps depth : Nat) → Run Unit
  | 0, _ => timeout
  | steps + 1, depth => do
    let item ← advance items
    match item.value with
    | some .lParen => closeParameters steps (depth + 1)
    | some .rParen => do
      let stillOpen ← countDown depth
      if stillOpen = 0 then pure () else closeParameters steps stillOpen
    | none => faultHere items .unterminatedParameters
    | some _ => closeParameters steps depth

/-- Takes a method header with its parameters. -/
def skipMethodHeader (steps : Nat) : Run Unit := do
  seekParameters items steps
  closeParameters items steps 0

end Storefront.Script.Cursor
