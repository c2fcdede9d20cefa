import Storefront.Script.Lexer

/-!
What the tokens of a text are like. Words are made of the characters of words, whole numbers are
within the range that a script can write, and no number has a sign. Every reader takes this for
granted, and it holds of every text.
-/

namespace Storefront.Number

/-! ### Signs -/

/-- The same number without its sign. -/
def Floating.unsigned {format : Format} (x : Floating format) : Floating format :=
  if x.negative then -x else x

/-- A word is its sign and its magnitude when the magnitude leaves the place of the sign free. -/
theorem toNat_ofParts (negative : Bool) {magnitude : Nat} (small : magnitude < Nat.pow 2 63) :
    (Floating.ofParts negative magnitude : Double).word.toNat =
      (if negative then Nat.pow 2 63 else 0) + magnitude := by
  have fits : (if negative then Nat.pow 2 63 else 0) + magnitude < 2 ^ 64 := by
    cases negative
    · exact Nat.lt_trans (by simpa using small) (by decide)
    · show Nat.pow 2 63 + magnitude < 2 ^ 64
      have double : Nat.pow 2 63 + Nat.pow 2 63 = 2 ^ 64 := by decide
      omega
  show (BitVec.ofNat 64 _).toNat = _
  rw [BitVec.toNat_ofNat]
  exact Nat.mod_eq_of_lt fits

theorem negative_ofParts (negative : Bool) {magnitude : Nat} (small : magnitude < Nat.pow 2 63) :
    (Floating.ofParts negative magnitude : Double).negative = negative := by
  show decide (Nat.pow 2 63 ≤ (Floating.ofParts negative magnitude : Double).word.toNat) = negative
  rw [toNat_ofParts negative small]
  cases negative
  · simpa using small
  · simp

theorem magnitude_ofParts (negative : Bool) {magnitude : Nat} (small : magnitude < Nat.pow 2 63) :
    (Floating.ofParts negative magnitude : Double).magnitude = magnitude := by
  show (Floating.ofParts negative magnitude : Double).word.toNat % Nat.pow 2 63 = magnitude
  rw [toNat_ofParts negative small]
  cases negative
  · simpa using Nat.mod_eq_of_lt small
  · rw [if_pos rfl, Nat.add_mod_left]
    exact Nat.mod_eq_of_lt small

theorem nearest_le_infinity (format : Format) (numerator denominator : Nat) :
    format.nearest numerator denominator ≤ format.infinity := by
  unfold Format.nearest
  split
  · exact Nat.zero_le _
  · exact Nat.min_le_left _ _

/-- A number read from digits without a sign has none. -/
theorem negative_ofDecimal (digits : Nat) (exponent : Int) :
    (Floating.ofDecimal false digits exponent : Double).negative = false := by
  have finite : Format.double.infinity < Nat.pow 2 63 := by decide
  refine negative_ofParts false (Nat.lt_of_le_of_lt ?_ finite)
  split
  · exact Nat.zero_le _
  · split
    · exact Nat.le_refl _
    · split
      · exact Nat.zero_le _
      · exact nearest_le_infinity _ _ _

theorem unsigned_of_positive {x : Double} (positive : x.negative = false) : x.unsigned = x := by
  rw [Floating.unsigned, positive]
  rfl

theorem unsigned_neg_of_positive {x : Double} (positive : x.negative = false) :
    (-x).unsigned = x := by
  have small : x.word.toNat < Nat.pow 2 63 := Nat.not_le.mp (of_decide_eq_false positive)
  have magnitude : x.magnitude = x.word.toNat := Nat.mod_eq_of_lt small
  have negated : -x = Floating.ofParts true x.magnitude := by
    show Floating.ofParts (!x.negative) x.magnitude = _
    rw [positive]
    rfl
  rw [Floating.unsigned, negated, negative_ofParts true (magnitude ▸ small), if_pos rfl]
  show Floating.ofParts (!(Floating.ofParts true x.magnitude : Double).negative)
    (Floating.ofParts true x.magnitude : Double).magnitude = x
  rw [negative_ofParts true (magnitude ▸ small), magnitude_ofParts true (magnitude ▸ small),
    magnitude]
  obtain ⟨word⟩ := x
  refine congrArg Floating.mk (BitVec.eq_of_toNat_eq ?_)
  exact toNat_ofParts false small |>.trans (Nat.zero_add _)

end Storefront.Number

namespace Storefront.Script

open Storefront.Number Storefront.Text

/-- Whether a token can come from a text. -/
def Token.Genuine : Token → Prop
  | word text => ∀ c ∈ text.toList, continuesWord c = true
  | int value => 0 ≤ value ∧ value ≤ Lexer.greatestInt
  | float value => value.negative = false
  | _ => True

namespace Lexer

theorem genuine_takeWhile (text : List Char) :
    (Token.word (String.ofList (text.takeWhile continuesWord))).Genuine := by
  intro c member
  rw [String.toList_ofList] at member
  exact List.all_eq_true.mp List.all_takeWhile c member

theorem fixedTokens_genuine : ∀ entry ∈ fixedTokens, entry.2.Genuine := by
  simp only [fixedTokens, List.forall_mem_cons, Token.Genuine, true_and, List.not_mem_nil,
    false_implies, implies_true]

theorem genuine_of_fixedToken? {text : List Char} {found : Found}
    (fixed : fixedToken? text = some found) : found.1.Genuine := by
  obtain ⟨entry, member, spelled⟩ := List.exists_of_findSome?_eq_some fixed
  obtain ⟨rest, _, rfl⟩ := Option.map_eq_some_iff.mp spelled
  exact fixedTokens_genuine entry member

theorem genuine_of_hexNumber {text : List Char} {found : Found}
    (isNumber : hexNumber text = .ok found) : found.1.Genuine := by
  unfold hexNumber at isNumber
  dsimp only at isNumber
  split at isNumber
  · cases isNumber
  · next within =>
    obtain rfl := Except.ok.inj isNumber
    simp only [Bool.or_eq_true, decide_eq_true_eq, not_or, Nat.not_lt] at within
    exact ⟨Int.natCast_nonneg _, Int.ofNat_le.mpr within.2⟩

theorem genuine_of_decimalNumber {text : List Char} {found : Found}
    (isNumber : decimalNumber text = .ok found) : found.1.Genuine := by
  unfold decimalNumber at isNumber
  dsimp only at isNumber
  split at isNumber
  · obtain rfl := Except.ok.inj isNumber
    exact negative_ofDecimal _ _
  · split at isNumber
    · cases isNumber
    · next within =>
      obtain rfl := Except.ok.inj isNumber
      exact ⟨Int.natCast_nonneg _, Int.ofNat_le.mpr (Nat.not_lt.mp within)⟩

theorem genuine_of_number {text : List Char} {found : Found} (isNumber : number text = .ok found) :
    found.1.Genuine := by
  unfold number at isNumber
  split at isNumber
  · exact genuine_of_hexNumber isNumber
  · exact genuine_of_hexNumber isNumber
  · exact genuine_of_decimalNumber isNumber

theorem genuine_of_characterLiteral {text : List Char} {found : Found}
    (isCharacter : characterLiteral text = .ok found) : found.1.Genuine := by
  unfold characterLiteral at isCharacter
  split at isCharacter
  · cases isCharacter
  · obtain rfl := Except.ok.inj isCharacter
    exact trivial
  · cases isCharacter

/-- The forms of a token at the start of a text, with the scan that finds it. -/
inductive TokenForm (c : Char) (rest : List Char) : Piece → Prop where
  | number {found : Found} (isNumber : number (c :: rest) = .ok found) :
      TokenForm c rest (.ofFound found)
  | word (starts : startsWord c = true) :
      TokenForm c rest (.ofFound (.word (String.ofList ((c :: rest).takeWhile continuesWord)),
        (c :: rest).dropWhile continuesWord))
  | atWord (isAt : c = '@') :
      TokenForm c rest (.ofFound (.word (String.ofList (rest.takeWhile continuesWord)),
        rest.dropWhile continuesWord))
  | verbatim (isAt : c = '@') (body : List Char × List Char) :
      TokenForm c rest ⟨some (.str (String.ofList body.1)), body.1.count '\n', false, body.2⟩
  | str (body : List Char × List Char) :
      TokenForm c rest (.ofFound (.str (String.ofList body.1), body.2))
  | char {found : Found} (isCharacter : characterLiteral rest = .ok found) :
      TokenForm c rest (.ofFound found)
  | fixed {found : Found} (isFixed : fixedToken? (c :: rest) = some found) :
      TokenForm c rest (.ofFound found)

theorem tokenForm_of_tokenPiece {c : Char} {rest : List Char} {found : Piece}
    (isPiece : tokenPiece c rest = .ok found) : TokenForm c rest found := by
  unfold tokenPiece at isPiece
  split at isPiece
  · obtain ⟨result, isNumber, rfl⟩ := eq_ok_of_map_eq_ok isPiece
    exact .number isNumber
  · split at isPiece
    · next starts =>
      obtain rfl := Except.ok.inj isPiece
      exact .word starts
    · split at isPiece
      · next isAt =>
        split at isPiece
        · split at isPiece
          · obtain rfl := Except.ok.inj isPiece
            exact .verbatim isAt _
          · cases isPiece
        · obtain rfl := Except.ok.inj isPiece
          exact .atWord isAt
      · split at isPiece
        · obtain ⟨body, _, rfl⟩ := eq_ok_of_map_eq_ok isPiece
          exact .str body
        · split at isPiece
          · obtain ⟨result, isCharacter, rfl⟩ := eq_ok_of_map_eq_ok isPiece
            exact .char isCharacter
          · split at isPiece
            · cases isPiece
            · split at isPiece
              · next isFixed =>
                obtain rfl := Except.ok.inj isPiece
                exact .fixed isFixed
              · cases isPiece

theorem genuine_of_tokenPiece {c : Char} {rest : List Char} {found : Piece}
    (isPiece : tokenPiece c rest = .ok found) : ∀ token ∈ found.token, token.Genuine := by
  intro token member
  cases tokenForm_of_tokenPiece isPiece with
  | number isNumber =>
    obtain rfl := Option.some.inj member
    exact genuine_of_number isNumber
  | word _ | atWord _ =>
    obtain rfl := Option.some.inj member
    exact genuine_takeWhile _
  | verbatim _ _ | str _ =>
    obtain rfl := Option.some.inj member
    exact trivial
  | char isCharacter =>
    obtain rfl := Option.some.inj member
    exact genuine_of_characterLiteral isCharacter
  | fixed isFixed =>
    obtain rfl := Option.some.inj member
    exact genuine_of_fixedToken? isFixed

/-- Only what is not passed over can be a token. -/
theorem genuine_of_piece {fresh : Bool} {c : Char} {rest : List Char} {found : Piece}
    (isPiece : piece fresh c rest = .ok found) : ∀ token ∈ found.token, token.Genuine := by
  have passed : ∀ {breaks : Nat} {stillFresh : Bool} {after : List Char} {token : Token},
      token ∈ (Piece.mk none breaks stillFresh after).token → token.Genuine := by
    rintro _ _ _ _ ⟨⟩
  unfold piece at isPiece
  split at isPiece
  · obtain rfl := Except.ok.inj isPiece
    exact fun _ => passed
  · split at isPiece
    · obtain rfl := Except.ok.inj isPiece
      exact fun _ => passed
    · split at isPiece
      · obtain rfl := Except.ok.inj isPiece
        exact fun _ => passed
      · split at isPiece
        · obtain rfl := Except.ok.inj isPiece
          exact fun _ => passed
        · split at isPiece
          · split at isPiece
            · obtain rfl := Except.ok.inj isPiece
              exact fun _ => passed
            · cases isPiece
          · exact genuine_of_tokenPiece isPiece

end Lexer

/-- Whether tokens can come from a text. -/
def Genuine (tokens : List (Located Token)) : Prop := ∀ token ∈ tokens, token.value.Genuine

theorem genuine_of_lexFrom (line : Nat) (fresh : Bool) (text : List Char) :
    ∀ lexed, lexFrom line fresh text = .ok lexed → Genuine lexed.tokens := by
  fun_induction lexFrom line fresh text with
  | case1 line fresh =>
    rintro _ ⟨⟩ token member
    cases member
  | case2 line fresh c rest fault isPiece =>
    rintro _ ⟨⟩
  | case3 line fresh c rest breaks stillFresh after isPiece inductionHypothesis =>
    exact inductionHypothesis
  | case4 line fresh c rest token breaks stillFresh after isPiece inductionHypothesis =>
    intro lexed cut
    obtain ⟨others, cutOthers, rfl⟩ := Lexer.eq_ok_of_map_eq_ok cut
    refine List.forall_mem_cons.mpr ⟨?_, inductionHypothesis others cutOthers⟩
    exact Lexer.genuine_of_piece isPiece token rfl

/-- The tokens of a text are genuine. -/
theorem genuine_of_lex {text : String} {lexed : Lexed} (cut : lex text = .ok lexed) :
    Genuine lexed.tokens :=
  genuine_of_lexFrom 1 true text.toList lexed cut

end Storefront.Script
