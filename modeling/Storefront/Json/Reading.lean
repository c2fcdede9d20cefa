import Storefront.Json.Number
import Storefront.Reading

/-!
Reading JSON text. Every value has a form of its own, which its first character tells; blanks may
stand between the parts. A text is one value with nothing but blanks around it.
-/

namespace Storefront.Json

open Storefront.Number

/-- The outcome of a reader of characters. -/
abbrev Read (α : Type) (bound : Nat) := Option (Reading Char α bound)

/-! ### Blanks and fixed characters -/

/-- The characters between the parts of a value. -/
def isGap (c : Char) : Bool := c == ' ' || c == '\n' || c == '\t' || c == '\r'

/-- The text after the blanks at its start. -/
def skipGap (text : List Char) : List Char := text.dropWhile isGap

theorem skipGap_length (text : List Char) : (skipGap text).length ≤ text.length :=
  Script.Lexer.length_dropWhile_le _ _

/-- Reads one given character after blanks. -/
def readMark (mark : Char) (text : List Char) : Read PUnit text.length :=
  match gap : skipGap text with
  | c :: rest =>
    if c = mark then
      some ⟨(), rest, by
        have shorter := skipGap_length text
        rw [gap, List.length_cons] at shorter
        omega⟩
    else none
  | [] => none

/-- Reads given characters. -/
def readLetters : (letters text : List Char) → Read PUnit (text.length + 1)
  | [], text => some (.nothing () text)
  | _ :: _, [] => none
  | letter :: letters, c :: text =>
    if letter = c then do
      let ⟨_, rest, fewer⟩ ← readLetters letters text
      some ⟨(), rest, by simp only [List.length_cons]; omega⟩
    else none

/-! ### Strings -/

/-- The characters that may follow a backslash on their own. -/
def isEscapeMark (c : Char) : Bool := ['"', '\\', '/', 'b', 'f', 'n', 'r', 't'].contains c

/-- Reads the spelling of a string after its opening quotation mark. -/
def readSpelling : (text : List Char) → Read (List Char) text.length
  | '"' :: rest => some (.first [] rest)
  | '\\' :: 'u' :: a :: b :: c :: d :: rest =>
    if [a, b, c, d].all Script.Lexer.isHexDigit then do
      let ⟨spelling, after, fewer⟩ ← readSpelling rest
      some ⟨'\\' :: 'u' :: a :: b :: c :: d :: spelling, after,
        by simp only [List.length_cons]; omega⟩
    else none
  | '\\' :: mark :: rest =>
    if isEscapeMark mark then do
      let ⟨spelling, after, fewer⟩ ← readSpelling rest
      some ⟨'\\' :: mark :: spelling, after, by simp only [List.length_cons]; omega⟩
    else none
  | c :: rest =>
    if c = '\\' || c.toNat < 0x20 then none
    else do
      let ⟨spelling, after, fewer⟩ ← readSpelling rest
      some ⟨c :: spelling, after, by simp only [List.length_cons]; omega⟩
  | [] => none

/-- The character that an escape of one letter stands for. -/
def escapeMeaning (mark : Char) : Char :=
  if mark = 'b' then '\x08'
  else if mark = 'f' then '\x0c'
  else if mark = 'n' then '\n'
  else if mark = 'r' then '\r'
  else if mark = 't' then '\t'
  else mark

/-- Whether a code is the first half of a surrogate pair. -/
def isLeadingHalf (code : Nat) : Bool := decide (0xD800 ≤ code) && decide (code < 0xDC00)

/-- Whether a code is the second half of a surrogate pair. -/
def isTrailingHalf (code : Nat) : Bool := decide (0xDC00 ≤ code) && decide (code < 0xE000)

/-- The characters that a spelling stands for; none if half of a surrogate pair stands alone. -/
def unspell : List Char → Option (List Char)
  | '\\' :: 'u' :: a :: b :: c :: d :: rest =>
    let code := Script.Lexer.valueOf 16 [a, b, c, d]
    if isLeadingHalf code then
      match rest with
      | '\\' :: 'u' :: e :: f :: g :: h :: after =>
        let next := Script.Lexer.valueOf 16 [e, f, g, h]
        if isTrailingHalf next then
          (unspell after).map
            (Char.ofNat (0x10000 + (code - 0xD800) * 0x400 + (next - 0xDC00)) :: ·)
        else none
      | _ => none
    else if isTrailingHalf code then none
    else (unspell rest).map (Char.ofNat code :: ·)
  | '\\' :: mark :: rest => (unspell rest).map (escapeMeaning mark :: ·)
  | c :: rest => (unspell rest).map (c :: ·)
  | [] => some []

/-- The text of a spelled string. -/
def unspell? (spelling : String) : Option String :=
  (unspell spelling.toList).map String.ofList

/-- The value of a spelled string. -/
def ofSpelling (spelling : List Char) : Json :=
  match unspell spelling with
  | some text => .str (String.ofList text)
  | none => .unreadable

/-! ### Numbers -/

/-- Reads one or more digits. -/
def readDigits (text : List Char) : Read (List Char) text.length :=
  match text with
  | c :: rest =>
    if c.isDigit then
      some ⟨c :: rest.takeWhile Char.isDigit, rest.dropWhile Char.isDigit,
        Nat.lt_succ_of_le (Script.Lexer.length_dropWhile_le _ _)⟩
    else none
  | [] => none

/-- Reads the digits before the point. A zero at their start stands alone. -/
def readWhole (text : List Char) : Read (List Char) text.length :=
  match text with
  | '0' :: rest =>
    if (rest.head?.map Char.isDigit).getD false then none
    else some (.first ['0'] rest)
  | text => readDigits text

/-- Reads the point and the digits after it, if there is a point. -/
def readFraction (text : List Char) : Read (Option (List Char)) (text.length + 1) :=
  match text with
  | '.' :: rest => do
    let ⟨digits, after, fewer⟩ ← readDigits rest
    some ⟨some digits, after, by simp only [List.length_cons]; omega⟩
  | text => some (.nothing none text)

/-- Reads the digits of an exponent and the sign in front of them. -/
def readPower (text : List Char) : Read Int text.length :=
  match text with
  | '+' :: rest => do
    let ⟨digits, after, fewer⟩ ← readDigits rest
    some ⟨Script.Lexer.valueOf 10 digits, after, by simp only [List.length_cons]; omega⟩
  | '-' :: rest => do
    let ⟨digits, after, fewer⟩ ← readDigits rest
    some ⟨-(Script.Lexer.valueOf 10 digits : Int), after,
      by simp only [List.length_cons]; omega⟩
  | text => do
    let ⟨digits, after, fewer⟩ ← readDigits text
    some ⟨Script.Lexer.valueOf 10 digits, after, fewer⟩

/-- Reads an exponent, if there is one. -/
def readExponent (text : List Char) : Read (Option Int) (text.length + 1) :=
  match text with
  | c :: rest =>
    if c = 'e' || c = 'E' then do
      let ⟨power, after, fewer⟩ ← readPower rest
      some ⟨some power, after, by simp only [List.length_cons]; omega⟩
    else some (.nothing none (c :: rest))
  | [] => some (.nothing none [])

/-- Reads a number after its sign. -/
def readUnsigned (negative : Bool) (text : List Char) : Read NumberSpelling text.length := do
  let ⟨whole, afterWhole, fewer₁⟩ ← readWhole text
  let ⟨fraction, afterFraction, fewer₂⟩ ← readFraction afterWhole
  let ⟨exponent, after, fewer₃⟩ ← readExponent afterFraction
  some ⟨⟨negative, whole, fraction, exponent⟩, after, by omega⟩

/-- Reads a number. -/
def readNumber (text : List Char) : Read NumberSpelling text.length :=
  match text with
  | '-' :: rest => do
    let ⟨spelling, after, fewer⟩ ← readUnsigned true rest
    some ⟨spelling, after, by simp only [List.length_cons]; omega⟩
  | text => readUnsigned false text

/-! ### Values -/

mutual

/-- Reads a value after blanks. -/
def readValue (text : List Char) : Read Json text.length := do
  have shorter := skipGap_length text
  match start : skipGap text with
  | 'n' :: rest =>
    have enough : rest.length + 1 ≤ text.length := by rw [start] at shorter; exact shorter
    let ⟨_, after, fewer⟩ ← readLetters ['u', 'l', 'l'] rest
    some ⟨.null, after, by omega⟩
  | 't' :: rest =>
    have enough : rest.length + 1 ≤ text.length := by rw [start] at shorter; exact shorter
    let ⟨_, after, fewer⟩ ← readLetters ['r', 'u', 'e'] rest
    some ⟨.bool true, after, by omega⟩
  | 'f' :: rest =>
    have enough : rest.length + 1 ≤ text.length := by rw [start] at shorter; exact shorter
    let ⟨_, after, fewer⟩ ← readLetters ['a', 'l', 's', 'e'] rest
    some ⟨.bool false, after, by omega⟩
  | '"' :: rest =>
    have enough : rest.length + 1 ≤ text.length := by rw [start] at shorter; exact shorter
    let ⟨spelling, after, fewer⟩ ← readSpelling rest
    some ⟨ofSpelling spelling, after, by omega⟩
  | '[' :: rest =>
    have enough : rest.length + 1 ≤ text.length := by rw [start] at shorter; exact shorter
    let ⟨items, after, fewer⟩ ← readItems rest
    some ⟨.arr items, after, by omega⟩
  | '\x7b' :: rest =>
    have enough : rest.length + 1 ≤ text.length := by rw [start] at shorter; exact shorter
    let ⟨members, after, fewer⟩ ← readMembers rest
    some ⟨.obj members, after, by omega⟩
  | other =>
    have enough : other.length ≤ text.length := by rw [start] at shorter; exact shorter
    let ⟨spelling, after, fewer⟩ ← readNumber other
    some ⟨spelling.value, after, by omega⟩
termination_by text.length * 4 + 1

/-- Reads the items of a list after its opening bracket, and the closing one. -/
def readItems (text : List Char) : Read (List Json) text.length :=
  match readMark ']' text with
  | some ⟨_, after, fewer⟩ => some ⟨[], after, fewer⟩
  | none => readMoreItems text
termination_by text.length * 4 + 3

/-- Reads one or more items, and the closing bracket. -/
def readMoreItems (text : List Char) : Read (List Json) text.length := do
  let ⟨item, afterItem, fewer₁⟩ ← readValue text
  match readMark ',' afterItem with
  | some ⟨_, afterComma, fewer₂⟩ =>
    let ⟨items, after, fewer₃⟩ ← readMoreItems afterComma
    some ⟨item :: items, after, by omega⟩
  | none =>
    let ⟨_, after, fewer₂⟩ ← readMark ']' afterItem
    some ⟨[item], after, by omega⟩
termination_by text.length * 4 + 2

/-- Reads the members of an object after its opening brace, and the closing one. -/
def readMembers (text : List Char) : Read (List (String × Json)) text.length :=
  match readMark '\x7d' text with
  | some ⟨_, after, fewer⟩ => some ⟨[], after, fewer⟩
  | none => readMoreMembers text
termination_by text.length * 4 + 3

/-- Reads one or more members, and the closing brace. -/
def readMoreMembers (text : List Char) : Read (List (String × Json)) text.length := do
  let ⟨_, afterMark, fewer₁⟩ ← readMark '"' text
  let ⟨key, afterKey, fewer₂⟩ ← readSpelling afterMark
  let ⟨_, afterColon, fewer₃⟩ ← readMark ':' afterKey
  let ⟨value, afterValue, fewer₄⟩ ← readValue afterColon
  match readMark ',' afterValue with
  | some ⟨_, afterComma, fewer₅⟩ =>
    let ⟨members, after, fewer₆⟩ ← readMoreMembers afterComma
    some ⟨(String.ofList key, value) :: members, after, by omega⟩
  | none =>
    let ⟨_, after, fewer₅⟩ ← readMark '\x7d' afterValue
    some ⟨[(String.ofList key, value)], after, by omega⟩
termination_by text.length * 4 + 2

end

/-- The value that a text consists of. -/
def parse? (text : String) : Option Json := do
  let ⟨value, after, _⟩ ← readValue text.toList
  if (skipGap after).isEmpty then some value else none

end Storefront.Json
