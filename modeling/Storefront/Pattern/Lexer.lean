import Storefront.Pattern.Token
import Storefront.Script.Lexeme.Number

/-!
From the text of a pattern to its tokens. Offsets in faults count bytes, and a character that no
token starts with is shown by its first byte.
-/

namespace Storefront.Pattern

open Storefront.Number

namespace Lexer

/-! ### Characters -/

/-- The characters between tokens. -/
def isGap (c : Char) : Bool := c == ' ' || c == '\t' || c == '\n' || c == '\x0c' || c == '\r'

/-- The characters of names. -/
def isNameChar (c : Char) : Bool := c.isAlphanum || c == '_'

/-- The characters that go on with a number. -/
def isNumberChar (c : Char) : Bool := c.isDigit || c == '-' || c == '.'

/-- The tokens that consist of one character. -/
def singleToken? : Char → Option Token
  | '(' => some .lParen
  | ')' => some .rParen
  | '\x7b' => some .lBrace
  | '\x7d' => some .rBrace
  | '[' => some .lBracket
  | ']' => some .rBracket
  | '$' => some .capture
  | '|' => some .pipe
  | '!' => some .negation
  | _ => none

/-- The bytes that a text takes. -/
def byteSize (text : List Char) : Nat := (text.map Char.utf8Size).foldr Nat.add 0

/-- The first byte of a character, as a character. -/
def firstByte (c : Char) : Char :=
  Char.ofNat ((String.utf8EncodeChar c).headD 0).toNat

/-! ### Numbers -/

/-- A sign in front of digits: whether it is a minus. -/
def splitSign : List Char → Bool × List Char
  | '-' :: rest => (true, rest)
  | rest => (false, rest)

/-- The integer that a text of digits stands for, if it fits 64 bits. -/
def integer? (text : List Char) : Option Int :=
  let (negative, digits) := splitSign text
  let size : Int := Script.Lexer.valueOf 10 digits
  let value := if negative then -size else size
  if digits.isEmpty || !digits.all Char.isDigit then none
  else if value < -Int.pow 2 63 || Int.pow 2 63 ≤ value then none
  else some value

/-- The real number that digits around one point stand for. -/
def real? (text : List Char) : Option Double :=
  let (negative, digits) := splitSign text
  let whole := digits.takeWhile Char.isDigit
  match digits.dropWhile Char.isDigit with
  | '.' :: places =>
    if whole.isEmpty || !places.all Char.isDigit then none
    else some (.ofDecimal negative (Script.Lexer.valueOf 10 (whole ++ places)) (-places.length))
  | _ => none

/-- The token of a number's text. A point makes it a real number. -/
def numberToken (text : List Char) : Except Fault Token :=
  if text.contains '.' then
    match real? text with
    | some value => .ok (.float value)
    | none => .error (.invalidFloat (String.ofList text))
  else
    match integer? text with
    | some value => .ok (.int value)
    | none => .error (.invalidInteger (String.ofList text))

/-- Whether a number starts here. -/
def startsNumber : List Char → Bool
  | '-' :: next :: _ => next.isDigit
  | c :: _ => c.isDigit
  | [] => false

/-! ### Tokens -/

/-- A token found at the start of a text, and the text after it. -/
abbrev Found := Token × List Char

/-- The name of a helper after its mark. -/
def helperName (text : List Char) : Except Fault Found :=
  let name := text.takeWhile isNameChar
  if name.isEmpty then .error .emptyHelperName
  else .ok (.helper (String.ofList name), text.dropWhile isNameChar)

/-- A name after its colon; a star after it makes it the start of a name. -/
def symbolName (text : List Char) : Except Fault Found :=
  let name := text.takeWhile isNameChar
  if name.isEmpty then .error .emptySymbol
  else
    match text.dropWhile isNameChar with
    | '*' :: rest => .ok (.symbolStart (String.ofList name), rest)
    | rest => .ok (.symbol (String.ofList name), rest)

/-- A string after its opening mark, up to the next such mark. -/
def stringToken (mark : Char) (text : List Char) : Except Fault Found :=
  match text.dropWhile (· != mark) with
  | _ :: rest => .ok (.str (String.ofList (text.takeWhile (· != mark))), rest)
  | [] => .error .unterminatedString

/-- The token of a word. -/
def wordToken (word : List Char) : Token :=
  if word = ['_'] then .wildcard else .ident (String.ofList word)

/-- The first token of a text that starts with `c` and no gap, `offset` bytes into the pattern. -/
def firstToken (offset : Nat) (c : Char) (rest : List Char) : Except Fault Found :=
  match singleToken? c with
  | some token => .ok (token, rest)
  | none =>
    if c = '.' then
      match rest with
      | '.' :: '.' :: after => .ok (.rest, after)
      | _ => .error (.strayDot offset)
    else if c = '#' then helperName rest
    else if c = ':' then symbolName rest
    else if c = '\'' || c = '"' then stringToken c rest
    else if startsNumber (c :: rest) then
      (numberToken ((c :: rest).takeWhile isNumberChar)).map
        fun token => (token, (c :: rest).dropWhile isNumberChar)
    else if isNameChar c then
      .ok (wordToken ((c :: rest).takeWhile isNameChar), (c :: rest).dropWhile isNameChar)
    else .error (.unexpectedCharacter (firstByte c) offset)

/-! ### Every token takes a character -/

open Script.Lexer (length_dropWhile_le length_dropWhile_cons_lt eq_ok_of_map_eq_ok)

theorem helperName_length {text : List Char} {result : Found}
    (found : helperName text = .ok result) : result.2.length ≤ text.length := by
  unfold helperName at found
  dsimp only at found
  split at found
  · simp at found
  · obtain rfl := Except.ok.inj found
    exact length_dropWhile_le _ _

theorem symbolName_length {text : List Char} {result : Found}
    (found : symbolName text = .ok result) : result.2.length ≤ text.length := by
  have shorter := length_dropWhile_le isNameChar text
  unfold symbolName at found
  dsimp only at found
  split at found
  · simp at found
  · split at found
    · next rest after =>
      obtain rfl := Except.ok.inj found
      rw [after, List.length_cons] at shorter
      exact Nat.le_of_succ_le shorter
    · obtain rfl := Except.ok.inj found
      exact shorter

theorem stringToken_length {mark : Char} {text : List Char} {result : Found}
    (found : stringToken mark text = .ok result) : result.2.length ≤ text.length := by
  have shorter := length_dropWhile_le (· != mark) text
  unfold stringToken at found
  split at found
  · next rest after =>
    obtain rfl := Except.ok.inj found
    rw [after, List.length_cons] at shorter
    exact Nat.le_of_succ_le shorter
  · simp at found

/-- What starts a number goes on in one. -/
theorem isNumberChar_of_startsNumber {c : Char} {rest : List Char}
    (starts : startsNumber (c :: rest) = true) : isNumberChar c = true := by
  unfold startsNumber at starts
  split at starts
  · next same => simp [(List.cons.inj same).1, isNumberChar]
  · next same => simp [(List.cons.inj same).1, isNumberChar, starts]
  · simp at starts

theorem firstToken_length {offset : Nat} {c : Char} {rest : List Char} {result : Found}
    (found : firstToken offset c rest = .ok result) : result.2.length ≤ rest.length := by
  unfold firstToken at found
  split at found
  · obtain rfl := Except.ok.inj found
    exact Nat.le_refl _
  · split at found
    · split at found
      · obtain rfl := Except.ok.inj found
        exact Nat.le_succ_of_le (Nat.le_succ _)
      · simp at found
    · split at found
      · exact helperName_length found
      · split at found
        · exact symbolName_length found
        · split at found
          · exact stringToken_length found
          · split at found
            · next starts =>
              obtain ⟨token, _, rfl⟩ := eq_ok_of_map_eq_ok found
              exact Nat.le_of_lt_succ
                (length_dropWhile_cons_lt rest (isNumberChar_of_startsNumber starts))
            · split at found
              · next nameChar =>
                obtain rfl := Except.ok.inj found
                exact Nat.le_of_lt_succ (length_dropWhile_cons_lt rest nameChar)
              · simp at found

end Lexer

/-! ### Whole patterns -/

open Lexer in
/-- The tokens of a text that is the end of a pattern of `size` bytes. -/
def lexFrom (size : Nat) : (text : List Char) → Except Fault (List Token)
  | [] => .ok []
  | c :: rest =>
    if isGap c then lexFrom size rest
    else
      match _found : firstToken (size - byteSize (c :: rest)) c rest with
      | .error fault => .error fault
      | .ok (token, after) => (lexFrom size after).map (token :: ·)
termination_by text => text.length
decreasing_by
  · exact Nat.lt_succ_self _
  · exact Nat.lt_succ_of_le (firstToken_length ‹_›)

/-- The tokens of a pattern. -/
def lex (text : String) : Except Fault (List Token) :=
  lexFrom (Lexer.byteSize text.toList) text.toList

end Storefront.Pattern
