import Storefront.Script.Lexeme.Fixed
import Storefront.Script.Lexeme.Number
import Storefront.Script.Lexeme.Quotation
import Storefront.Text.Blank
import Storefront.Text.Letter

/-!
From text to tokens. A text is cut into pieces: each piece is either a token or a stretch that is
passed over, and `piece` finds the first one by looking at the characters alone, together with
whether only blanks stand before it on its line. Every piece takes at least one character, so
cutting ends. A token's line is one more than the line breaks in the pieces before it.
-/

namespace Storefront.Script

open Storefront.Text

namespace Lexer

/-! ### Pieces -/

/-- The first piece of a text: a token, or nothing for what is passed over, then the line breaks
within it, whether what follows has only blanks before it on its line, and the text after it. -/
structure Piece where
  token : Option Token
  breaks : Nat
  fresh : Bool
  rest : List Char

/-- A piece that is a token within one line. -/
def Piece.ofFound (found : Found) : Piece := ⟨some found.1, 0, false, found.2⟩

/-- The rest of a block comment: the line breaks in it, and the text after it. -/
def commentBody : List Char → Option (Nat × List Char)
  | [] => none
  | '*' :: '/' :: rest => some (0, rest)
  | c :: rest =>
    if c == '\n' then (commentBody rest).map fun body => (body.1 + 1, body.2)
    else commentBody rest

/-- The text from the next line break on. -/
def restOfLine (text : List Char) : List Char := text.dropWhile (· != '\n')

/-- The first token of a text that starts with `c`, together with the line breaks in it. -/
def tokenPiece (c : Char) (rest : List Char) : Except Fault Piece :=
  if startsNumber (c :: rest) then (number (c :: rest)).map .ofFound
  else if startsWord c then
    .ok (.ofFound (.word (String.ofList ((c :: rest).takeWhile continuesWord)),
      (c :: rest).dropWhile continuesWord))
  else if c = '@' then
    match rest with
    | '"' :: text =>
      match verbatimBody text with
      | some body =>
        .ok ⟨some (.str (String.ofList body.1)), body.1.count '\n', false, body.2⟩
      | none => .error .unterminatedString
    | _ =>
      .ok (.ofFound (.word (String.ofList (rest.takeWhile continuesWord)),
        rest.dropWhile continuesWord))
  else if c = '"' then
    (stringBody rest).map fun body => .ofFound (.str (String.ofList body.1), body.2)
  else if c = '\'' then (characterLiteral rest).map .ofFound
  else if c = '$' && rest.head? == some '"' then .error .interpolatedString
  else
    match fixedToken? (c :: rest) with
    | some found => .ok (.ofFound found)
    | none => .error (.unexpectedCharacter c)

/-- The first piece of a text that starts with `c`. `fresh` says whether only blanks stand before it
on its line, which makes a hash sign a directive of one line. -/
def piece (fresh : Bool) (c : Char) (rest : List Char) : Except Fault Piece :=
  if c = '\n' then .ok ⟨none, 1, true, rest⟩
  else if isBlank c then .ok ⟨none, 0, fresh, rest⟩
  else if c = '#' && fresh then .ok ⟨none, 0, true, restOfLine rest⟩
  else if c = '/' && rest.head? == some '/' then .ok ⟨none, 0, false, restOfLine rest⟩
  else if c = '/' && rest.head? == some '*' then
    match commentBody rest.tail with
    | some body => .ok ⟨none, body.1, false, body.2⟩
    | none => .error .unterminatedComment
  else tokenPiece c rest

/-! ### Every piece takes a character -/

theorem commentBody_length (text : List Char) :
    ∀ body, commentBody text = some body → body.2.length ≤ text.length := by
  fun_induction commentBody text with
  | case1 => simp
  | case2 rest =>
    rintro _ ⟨⟩
    exact Nat.le_succ_of_le (Nat.le_succ _)
  | case3 c rest _ _ inductionHypothesis =>
    intro body found
    obtain ⟨inner, innerFound, rfl⟩ := Option.map_eq_some_iff.mp found
    exact Nat.le_succ_of_le (inductionHypothesis inner innerFound)
  | case4 c rest _ _ inductionHypothesis =>
    exact fun body found => Nat.le_succ_of_le (inductionHypothesis body found)

theorem tokenPiece_length {c : Char} {rest : List Char} {found : Piece}
    (piece : tokenPiece c rest = .ok found) : found.rest.length ≤ rest.length := by
  unfold tokenPiece at piece
  split at piece
  · next starts =>
    obtain ⟨result, isNumber, rfl⟩ := eq_ok_of_map_eq_ok piece
    exact Nat.le_of_lt_succ (number_length starts isNumber)
  · split at piece
    · next starts =>
      obtain rfl := Except.ok.inj piece
      exact Nat.le_of_lt_succ (length_dropWhile_cons_lt rest (continuesWord_of_startsWord starts))
    · split at piece
      · split at piece
        · split at piece
          · next body =>
            obtain rfl := Except.ok.inj piece
            exact Nat.le_succ_of_le (verbatimBody_length _ _ body)
          · simp at piece
        · obtain rfl := Except.ok.inj piece
          exact length_dropWhile_le _ _
      · split at piece
        · obtain ⟨body, isString, rfl⟩ := eq_ok_of_map_eq_ok piece
          exact stringBody_length _ _ isString
        · split at piece
          · obtain ⟨body, isCharacter, rfl⟩ := eq_ok_of_map_eq_ok piece
            exact characterLiteral_length isCharacter
          · split at piece
            · simp at piece
            · split at piece
              · next isFixed =>
                obtain rfl := Except.ok.inj piece
                exact Nat.le_of_lt_succ (fixedToken?_length isFixed)
              · simp at piece

/-- A piece takes at least the character that it starts with. -/
theorem piece_length {fresh : Bool} {c : Char} {rest : List Char} {found : Piece}
    (isPiece : piece fresh c rest = .ok found) : found.rest.length ≤ rest.length := by
  unfold piece at isPiece
  split at isPiece
  · obtain rfl := Except.ok.inj isPiece
    exact Nat.le_refl _
  · split at isPiece
    · obtain rfl := Except.ok.inj isPiece
      exact Nat.le_refl _
    · split at isPiece
      · obtain rfl := Except.ok.inj isPiece
        exact length_dropWhile_le _ _
      · split at isPiece
        · obtain rfl := Except.ok.inj isPiece
          exact length_dropWhile_le _ _
        · split at isPiece
          · split at isPiece
            · next body =>
              obtain rfl := Except.ok.inj isPiece
              exact Nat.le_trans (commentBody_length _ _ body) (by simp)
            · simp at isPiece
          · exact tokenPiece_length isPiece

end Lexer

/-! ### Whole texts -/

/-- The tokens of a text, and the line on which it ends. -/
structure Lexed where
  tokens : List (Located Token)
  lastLine : Nat
  deriving DecidableEq, Repr

/-- The same with one more token in front. -/
def Lexed.push (token : Located Token) (lexed : Lexed) : Lexed :=
  ⟨token :: lexed.tokens, lexed.lastLine⟩

open Lexer in
/-- The tokens of a text that starts on the given line; `fresh` says whether only blanks stand
before it there. -/
def lexFrom (line : Nat) (fresh : Bool) : (text : List Char) → Except ParseError Lexed
  | [] => .ok ⟨[], line⟩
  | c :: rest =>
    match _isPiece : piece fresh c rest with
    | .error fault => .error ⟨line, fault⟩
    | .ok ⟨none, breaks, stillFresh, after⟩ => lexFrom (line + breaks) stillFresh after
    | .ok ⟨some token, breaks, stillFresh, after⟩ =>
      (lexFrom (line + breaks) stillFresh after).map (Lexed.push ⟨line, token⟩)
termination_by text => text.length
decreasing_by all_goals exact Nat.lt_succ_of_le (piece_length ‹_›)

section Steps

open Lexer

variable {line breaks : Nat} {fresh stillFresh : Bool} {c : Char} {rest after : List Char}

theorem lexFrom_error {fault : Fault} (isPiece : piece fresh c rest = .error fault) :
    lexFrom line fresh (c :: rest) = .error ⟨line, fault⟩ := by
  rw [lexFrom.eq_def]
  dsimp only
  split
  · next isError =>
    cases isPiece.symm.trans isError
    rfl
  · next isPassed => cases isPiece.symm.trans isPassed
  · next isToken => cases isPiece.symm.trans isToken

/-- A piece that is passed over leaves no token. -/
theorem lexFrom_passed (isPiece : piece fresh c rest = .ok ⟨none, breaks, stillFresh, after⟩) :
    lexFrom line fresh (c :: rest) = lexFrom (line + breaks) stillFresh after := by
  rw [lexFrom.eq_def]
  dsimp only
  split
  · next isError => cases isPiece.symm.trans isError
  · next isPassed =>
    cases isPiece.symm.trans isPassed
    rfl
  · next isToken => cases isPiece.symm.trans isToken

/-- A piece that is a token comes first. -/
theorem lexFrom_token {token : Token}
    (isPiece : piece fresh c rest = .ok ⟨some token, breaks, stillFresh, after⟩) :
    lexFrom line fresh (c :: rest) =
      (lexFrom (line + breaks) stillFresh after).map (Lexed.push ⟨line, token⟩) := by
  rw [lexFrom.eq_def]
  dsimp only
  split
  · next isError => cases isPiece.symm.trans isError
  · next isPassed => cases isPiece.symm.trans isPassed
  · next isToken =>
    cases isPiece.symm.trans isToken
    rfl

end Steps

/-- The tokens of a text. -/
def lex (text : String) : Except ParseError Lexed := lexFrom 1 true text.toList

end Storefront.Script
