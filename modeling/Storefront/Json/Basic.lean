import Storefront.Number.Shortest

/-!
JSON values and how they are written, in one line or indented. The members of an object keep their
order, and their keys are kept as they are spelled between the quotation marks.
-/

namespace Storefront

open Storefront.Number

/-- A JSON value. -/
inductive Json where
  | null
  | bool (value : Bool)
  | int (value : Int)
  | float (value : Double)
  | str (value : String)
  | arr (items : List Json)
  | obj (members : List (String × Json))
  /-- What has the form of a value and stands for none: a number out of range, or a string with half
  of a surrogate pair. -/
  | unreadable
  deriving Repr, Inhabited

namespace Json

/-! ### Strings -/

/-- A hexadecimal digit. -/
def hexDigit (value : Nat) : Char := (Nat.toDigits 16 value).headD '0'

/-- A control character by its code point. -/
def codeEscape (c : Char) : List Char :=
  ['\\', 'u', '0', '0', hexDigit (c.toNat / 16), hexDigit (c.toNat % 16)]

/-- A character within quotation marks. Only what must be escaped is. -/
def spellChar (c : Char) : List Char :=
  if c = '"' then ['\\', '"']
  else if c = '\\' then ['\\', '\\']
  else if 0x20 ≤ c.toNat then [c]
  else if c = '\x08' then ['\\', 'b']
  else if c = '\t' then ['\\', 't']
  else if c = '\n' then ['\\', 'n']
  else if c = '\x0c' then ['\\', 'f']
  else if c = '\r' then ['\\', 'r']
  else codeEscape c

/-- The characters of a string within quotation marks. -/
def spell (text : String) : String := String.ofList (text.toList.flatMap spellChar)

/-- A string with its quotation marks. -/
def quote (text : String) : String := "\"" ++ spell text ++ "\""

/-! ### Numbers -/

/-- Real numbers have an exponent below `0.00001` and from `10^16` on. -/
def realStyle : NumberStyle := ⟨false, fun position => position < -4 || 16 < position⟩

/-- A real number. What is not finite has no form of its own. -/
def realText (value : Double) : String := if value.isFinite then value.text realStyle else "null"

/-! ### Values in one line -/

mutual

/-- A value without blanks. -/
def compact : Json → String
  | null | unreadable => "null"
  | bool value => if value then "true" else "false"
  | int value => toString value
  | float value => realText value
  | str value => quote value
  | arr items => "[" ++ ",".intercalate (compactItems items) ++ "]"
  | obj members => "\x7b" ++ ",".intercalate (compactMembers members) ++ "\x7d"

/-- Items without blanks. -/
def compactItems : List Json → List String
  | [] => []
  | item :: rest => item.compact :: compactItems rest

/-- Members without blanks. -/
def compactMembers : List (String × Json) → List String
  | [] => []
  | (key, value) :: rest => ("\"" ++ key ++ "\":" ++ value.compact) :: compactMembers rest

end

/-! ### Indented values -/

/-- A line break, and two blanks for each level. -/
def lineBreak (level : Nat) : String := "\n".pushn ' ' (2 * level)

/-- The items of a list or an object between its brackets, each on lines of its own. -/
def bracketed (opening closing : String) (level : Nat) : List String → String
  | [] => opening ++ closing
  | item :: rest =>
    opening ++ lineBreak (level + 1) ++
      ("," ++ lineBreak (level + 1)).intercalate (item :: rest) ++ lineBreak level ++ closing

mutual

/-- A value over several lines, within `level` other values. -/
def indented (level : Nat) : Json → String
  | null | unreadable => "null"
  | bool value => if value then "true" else "false"
  | int value => toString value
  | float value => realText value
  | str value => quote value
  | arr items => bracketed "[" "]" level (indentedItems level items)
  | obj members => bracketed "\x7b" "\x7d" level (indentedMembers level members)

/-- Items over several lines. -/
def indentedItems (level : Nat) : List Json → List String
  | [] => []
  | item :: rest => item.indented (level + 1) :: indentedItems level rest

/-- Members over several lines. -/
def indentedMembers (level : Nat) : List (String × Json) → List String
  | [] => []
  | (key, value) :: rest =>
    ("\"" ++ key ++ "\": " ++ value.indented (level + 1)) :: indentedMembers level rest

end

/-! ### Nesting -/

mutual

/-- How many lists and objects enclose the innermost value, the outermost one included. -/
def depth : Json → Nat
  | arr items => depthOfItems items + 1
  | obj members => depthOfMembers members + 1
  | _ => 0

/-- The greatest depth of items. -/
def depthOfItems : List Json → Nat
  | [] => 0
  | item :: rest => max item.depth (depthOfItems rest)

/-- The greatest depth of members. -/
def depthOfMembers : List (String × Json) → Nat
  | [] => 0
  | (_, value) :: rest => max value.depth (depthOfMembers rest)

end

end Json

end Storefront
