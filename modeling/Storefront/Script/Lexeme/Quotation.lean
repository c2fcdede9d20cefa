import Storefront.Script.Lexeme.Basic

/-!
Strings and characters in a script. A string ends on the line it starts on and knows escapes; a
verbatim string may span lines and knows only the doubled quotation mark.
-/

namespace Storefront.Script.Lexer

/-- The character that an escape stands for, from the character after the backslash. -/
def escapeMeaning? : Char → Option Char
  | 'n' => some '\n'
  | 't' => some '\t'
  | 'r' => some '\r'
  | '0' => some '\x00'
  | '\\' => some '\\'
  | '\'' => some '\''
  | '"' => some '"'
  | _ => none

/-- An escape after its backslash. -/
def escape : List Char → Except Fault (Char × List Char)
  | [] => .error .unterminatedEscape
  | c :: rest =>
    match escapeMeaning? c with
    | some meaning => .ok (meaning, rest)
    | none => .error (.unsupportedEscape c)

/-- The rest of a string after its opening mark, which ends on the same line: its content, and the
text after the closing mark. -/
def stringBody : List Char → Except Fault (List Char × List Char)
  | [] => .error .unterminatedString
  | '"' :: rest => .ok ([], rest)
  | '\n' :: _ => .error .unterminatedString
  | ['\\'] => .error .unterminatedEscape
  | '\\' :: c :: rest =>
    match escapeMeaning? c with
    | none => .error (.unsupportedEscape c)
    | some meaning => (stringBody rest).map fun body => (meaning :: body.1, body.2)
  | c :: rest => (stringBody rest).map fun body => (c :: body.1, body.2)

/-- The rest of a verbatim string, where only the quotation mark is special: two of them stand for
one. -/
def verbatimBody : List Char → Option (List Char × List Char)
  | [] => none
  | '"' :: '"' :: rest => (verbatimBody rest).map fun body => ('"' :: body.1, body.2)
  | '"' :: rest => some ([], rest)
  | c :: rest => (verbatimBody rest).map fun body => (c :: body.1, body.2)

/-- The character of a character literal, after the opening mark. -/
def literalCharacter : List Char → Except Fault (Char × List Char)
  | '\\' :: rest => escape rest
  | c :: rest =>
    if c == '\'' || c == '\n' then .error .malformedCharacter else .ok (c, rest)
  | [] => .error .malformedCharacter

/-- A character literal after its opening mark. -/
def characterLiteral (text : List Char) : Except Fault Found :=
  match literalCharacter text with
  | .error fault => .error fault
  | .ok (c, '\'' :: rest) => .ok (.char c, rest)
  | .ok _ => .error .unterminatedCharacter

/-! ### The text after a quotation is no longer than before -/

theorem verbatimBody_length (text : List Char) :
    ∀ body, verbatimBody text = some body → body.2.length ≤ text.length := by
  fun_induction verbatimBody text with
  | case1 => simp
  | case2 rest inductionHypothesis =>
    intro body found
    obtain ⟨inner, innerFound, rfl⟩ := Option.map_eq_some_iff.mp found
    exact Nat.le_succ_of_le (Nat.le_succ_of_le (inductionHypothesis inner innerFound))
  | case3 rest =>
    rintro _ ⟨⟩
    exact Nat.le_succ _
  | case4 c rest _ _ inductionHypothesis =>
    intro body found
    obtain ⟨inner, innerFound, rfl⟩ := Option.map_eq_some_iff.mp found
    exact Nat.le_succ_of_le (inductionHypothesis inner innerFound)

theorem stringBody_length (text : List Char) :
    ∀ body, stringBody text = .ok body → body.2.length ≤ text.length := by
  fun_induction stringBody text with
  | case1 | case3 | case4 | case5 => simp
  | case2 rest =>
    rintro _ ⟨⟩
    exact Nat.le_succ _
  | case6 c rest _ _ inductionHypothesis =>
    intro body found
    obtain ⟨inner, innerFound, rfl⟩ := eq_ok_of_map_eq_ok found
    exact Nat.le_succ_of_le (Nat.le_succ_of_le (inductionHypothesis inner innerFound))
  | case7 c rest _ _ _ _ inductionHypothesis =>
    intro body found
    obtain ⟨inner, innerFound, rfl⟩ := eq_ok_of_map_eq_ok found
    exact Nat.le_succ_of_le (inductionHypothesis inner innerFound)

theorem escape_length {text : List Char} {result : Char × List Char}
    (found : escape text = .ok result) : result.2.length ≤ text.length := by
  unfold escape at found
  split at found
  · simp at found
  · split at found
    · obtain rfl := Except.ok.inj found
      exact Nat.le_succ _
    · simp at found

theorem literalCharacter_length {text : List Char} {result : Char × List Char}
    (found : literalCharacter text = .ok result) : result.2.length ≤ text.length := by
  unfold literalCharacter at found
  split at found
  · exact Nat.le_succ_of_le (escape_length found)
  · split at found
    · simp at found
    · obtain rfl := Except.ok.inj found
      exact Nat.le_succ _
  · simp at found

theorem characterLiteral_length {text : List Char} {result : Found}
    (found : characterLiteral text = .ok result) : result.2.length ≤ text.length := by
  unfold characterLiteral at found
  split at found
  · simp at found
  · rename_i c rest literal
    obtain rfl := Except.ok.inj found
    exact Nat.le_of_succ_le (literalCharacter_length literal)
  · simp at found

end Storefront.Script.Lexer
