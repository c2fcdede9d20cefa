import Storefront.Script.Lexeme.Basic

/-!
Operators and punctuation: the tokens with one spelling each. Where one spelling starts another, the
longer one is meant.
-/

namespace Storefront.Script.Lexer

/-- The tokens with a fixed spelling, longer spellings first. -/
def fixedTokens : List (List Char × Token) := [
  (['<', '<', '='], .assign (some .shl)), (['>', '>', '='], .assign (some .shr)),
  (['<', '<'], .shl), (['>', '>'], .shr), (['<', '='], .le), (['>', '='], .ge),
  (['=', '='], .eqEq), (['=', '>'], .arrow), (['!', '='], .notEq),
  (['&', '&'], .andAnd), (['|', '|'], .orOr),
  (['+', '+'], .plusPlus), (['-', '-'], .minusMinus),
  (['+', '='], .assign (some .add)), (['-', '='], .assign (some .sub)),
  (['*', '='], .assign (some .mul)), (['/', '='], .assign (some .div)),
  (['%', '='], .assign (some .mod)), (['&', '='], .assign (some .bitAnd)),
  (['|', '='], .assign (some .bitOr)), (['^', '='], .assign (some .xor)),
  (['('], .lParen), ([')'], .rParen), (['\x7b'], .lBrace), (['\x7d'], .rBrace),
  (['['], .lBracket), ([']'], .rBracket), ([';'], .semi), ([','], .comma),
  (['.'], .dot), ([':'], .colon), (['?'], .question), (['='], .assign none),
  (['<'], .lt), (['>'], .gt), (['!'], .bang), (['~'], .tilde),
  (['+'], .plus), (['-'], .minus), (['*'], .star), (['/'], .slash), (['%'], .percent),
  (['&'], .amp), (['|'], .pipe), (['^'], .caret)]

/-- What is left of a text after a spelling at its start. -/
def afterSpelling? : (spelling text : List Char) → Option (List Char)
  | [], text => some text
  | _ :: _, [] => none
  | expected :: spelling, c :: text =>
    if expected == c then afterSpelling? spelling text else none

/-- The longest token with a fixed spelling at the start of a text. -/
def fixedToken? (text : List Char) : Option Found :=
  fixedTokens.findSome? fun entry =>
    (afterSpelling? entry.1 text).map fun rest => (entry.2, rest)

theorem afterSpelling?_length {spelling text rest : List Char}
    (found : afterSpelling? spelling text = some rest) :
    rest.length + spelling.length = text.length := by
  fun_induction afterSpelling? spelling text with
  | case1 text =>
    obtain rfl := Option.some.inj found
    rfl
  | case2 | case4 => simp at found
  | case3 expected spelling c text _ inductionHypothesis =>
    have shorter := inductionHypothesis found
    simp only [List.length_cons]
    omega

theorem fixedTokens_spelled : ∀ entry ∈ fixedTokens, 0 < entry.1.length := by decide

theorem fixedToken?_length {text : List Char} {result : Found}
    (found : fixedToken? text = some result) : result.2.length < text.length := by
  obtain ⟨entry, member, spelled⟩ := List.exists_of_findSome?_eq_some found
  obtain ⟨rest, spellingFound, rfl⟩ := Option.map_eq_some_iff.mp spelled
  have length := afterSpelling?_length spellingFound
  have positive := fixedTokens_spelled entry member
  show rest.length < text.length
  omega

end Storefront.Script.Lexer
