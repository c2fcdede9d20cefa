import Storefront.Pattern.Lexer
import Storefront.Proofs.JsonText

/-!
How the tokens of patterns are spelled. A spelling stands for tokens when, wherever it is put in
front of the rest of a pattern, exactly these tokens are cut off. What a token carries is limited by
the way it is found: a name is not empty, a word starts with no digit, and a whole number fits 64
bits. What is so limited can be spelled.
-/

namespace Storefront.Pattern

open Lexer
open Script (scan_append ascii_induction small_of_continuesPlainName)
open Script.Lexer (eq_ok_of_map_eq_ok)
open Json (fitsInt exists_digit valueOf_toDigits toString_negSucc)

/-! ### What a token carries -/

/-- A text can be the name of a helper or of a symbol. -/
structure IsName (name : String) : Prop where
  notEmpty : name.toList ≠ []
  characters : name.toList.all isNameChar = true

/-- A text can be a word: a name that starts no number and does not mean anything. -/
structure IsWord (word : String) : Prop extends IsName word where
  noDigit : word.toList.head?.any Char.isDigit = false
  notWildcard : word.toList ≠ ['_']

instance (name : String) : Decidable (IsName name) :=
  decidable_of_iff (name.toList ≠ [] ∧ name.toList.all isNameChar = true)
    ⟨fun ⟨notEmpty, characters⟩ => ⟨notEmpty, characters⟩,
      fun ⟨notEmpty, characters⟩ => ⟨notEmpty, characters⟩⟩

instance (word : String) : Decidable (IsWord word) :=
  decidable_of_iff (IsName word ∧ word.toList.head?.any Char.isDigit = false ∧
      word.toList ≠ ['_'])
    ⟨fun ⟨isName, noDigit, notWildcard⟩ => ⟨isName, noDigit, notWildcard⟩,
      fun ⟨isName, noDigit, notWildcard⟩ => ⟨isName, noDigit, notWildcard⟩⟩

/-- What a token carries can be spelled. Every text and every real number can. -/
def Token.Spellable : Token → Prop
  | .helper name | .symbol name | .symbolStart name => IsName name
  | .int value => fitsInt value = true
  | .ident word => IsWord word
  | _ => True

theorem isName_takeWhile {text : List Char} (notEmpty : (text.takeWhile isNameChar) ≠ []) :
    IsName (String.ofList (text.takeWhile isNameChar)) := by
  refine ⟨?_, ?_⟩
  · rwa [String.toList_ofList]
  · rw [String.toList_ofList]
    exact List.all_takeWhile

/-- A number that is found fits 64 bits. -/
theorem fits_of_integer? {text : List Char} {value : Int} (found : integer? text = some value) :
    fitsInt value = true := by
  unfold integer? at found
  dsimp only at found
  generalize (if (splitSign text).1 = true then _ else _ : Int) = signed at found
  split at found
  · cases found
  · split at found
    · cases found
    · next inRange =>
      obtain rfl := Option.some.inj found
      simp only [Bool.or_eq_true, decide_eq_true_eq, not_or, Int.not_lt, Int.not_le] at inRange
      simp only [fitsInt, Bool.and_eq_true, decide_eq_true_eq]
      exact inRange

theorem spellable_of_numberToken {text : List Char} {token : Token}
    (found : numberToken text = .ok token) : token.Spellable := by
  unfold numberToken at found
  split at found
  · split at found
    · cases found
      trivial
    · cases found
  · split at found
    · next isInteger =>
      cases found
      exact fits_of_integer? isInteger
    · cases found

theorem spellable_of_singleToken? {c : Char} {token : Token}
    (found : singleToken? c = some token) : token.Spellable := by
  unfold singleToken? at found
  split at found
  all_goals
    cases found
    try trivial

theorem spellable_of_wordToken {c : Char} {rest : List Char} (nameChar : isNameChar c = true)
    (noNumber : startsNumber (c :: rest) = false) :
    (wordToken ((c :: rest).takeWhile isNameChar)).Spellable := by
  unfold wordToken
  split
  · trivial
  · next notWildcard =>
    have starts : (c :: rest).takeWhile isNameChar = c :: rest.takeWhile isNameChar := by
      rw [List.takeWhile_cons, if_pos nameChar]
    refine ⟨isName_takeWhile (by rw [starts]; exact List.cons_ne_nil _ _), ?_, ?_⟩
    · rw [String.toList_ofList, starts]
      show c.isDigit = false
      unfold startsNumber at noNumber
      split at noNumber
      · next same => rw [(List.cons.inj same).1]; rfl
      · next same => rwa [(List.cons.inj same).1]
      · next same => cases same
    · rwa [String.toList_ofList]

theorem spellable_of_firstToken {offset : Nat} {c : Char} {rest : List Char} {result : Found}
    (found : firstToken offset c rest = .ok result) : result.1.Spellable := by
  unfold firstToken at found
  split at found
  · next single =>
    cases found
    exact spellable_of_singleToken? single
  · split at found
    · split at found
      · cases found
        trivial
      · cases found
    · split at found
      · unfold helperName at found
        dsimp only at found
        split at found
        · cases found
        · next notEmpty =>
          cases found
          exact isName_takeWhile (notEmpty ∘ List.isEmpty_iff.mpr)
      · split at found
        · unfold symbolName at found
          dsimp only at found
          split at found
          · cases found
          · next notEmpty =>
            have isName := isName_takeWhile (notEmpty ∘ List.isEmpty_iff.mpr)
            split at found
            · cases found
              exact isName
            · cases found
              exact isName
        · split at found
          · unfold stringToken at found
            split at found
            · cases found
              trivial
            · cases found
          · split at found
            · obtain ⟨token, isNumber, rfl⟩ := eq_ok_of_map_eq_ok found
              exact spellable_of_numberToken isNumber
            · next noNumber =>
              split at found
              · next nameChar =>
                cases found
                exact spellable_of_wordToken nameChar (Bool.eq_false_iff.mpr noNumber)
              · cases found

/-- All that is cut off a text can be spelled. -/
theorem spellable_of_lexFrom {size : Nat} {text : List Char} {tokens : List Token}
    (cut : lexFrom size text = .ok tokens) : ∀ token ∈ tokens, token.Spellable := by
  induction text using lexFrom.induct size generalizing tokens with
  | case1 =>
    rw [lexFrom] at cut
    cases cut
    exact nofun
  | case2 c rest gap inductionHypothesis =>
    rw [lexFrom, if_pos gap] at cut
    exact inductionHypothesis cut
  | case3 c rest noGap fault found =>
    rw [lexFrom, if_neg noGap] at cut
    split at cut
    · cases cut
    · next again => cases found.symm.trans again
  | case4 c rest noGap token after found inductionHypothesis =>
    rw [lexFrom, if_neg noGap] at cut
    split at cut
    · cases cut
    · next again =>
      cases found.symm.trans again
      obtain ⟨others, later, rfl⟩ := eq_ok_of_map_eq_ok cut
      exact List.forall_mem_cons.mpr ⟨spellable_of_firstToken found, inductionHypothesis later⟩

/-! ### Cutting in place -/

/-- A spelling is cut into tokens when `rest` stands behind it. -/
def Spells (spelling : List Char) (tokens : List Token) (rest : List Char) : Prop :=
  ∀ size, lexFrom size (spelling ++ rest) = (lexFrom size rest).map (tokens ++ ·)

variable {spelling rest : List Char} {token : Token} {tokens : List Token}

theorem Spells.nothing (rest : List Char) : Spells [] [] rest := by
  intro size
  rw [List.nil_append]
  cases lexFrom size rest <;> rfl

theorem Spells.append {first second : List Char} {more : List Token}
    (one : Spells first tokens (second ++ rest)) (other : Spells second more rest) :
    Spells (first ++ second) (tokens ++ more) rest := by
  intro size
  rw [List.append_assoc, one size, other size]
  cases lexFrom size rest with
  | error fault => rfl
  | ok others => simp only [Except.map, List.append_assoc]

theorem Spells.blank (spells : Spells spelling tokens rest) :
    Spells (' ' :: spelling) tokens rest := by
  intro size
  rw [List.cons_append, lexFrom, if_pos (by decide)]
  exact spells size

theorem spells_of_firstToken {c : Char} (noGap : isGap c = false)
    (first : ∀ offset, firstToken offset c (spelling ++ rest) = .ok (token, rest)) :
    Spells (c :: spelling) [token] rest := by
  intro size
  rw [List.cons_append, lexFrom, if_neg (Bool.eq_false_iff.mp noGap)]
  split
  · next found => cases (first _).symm.trans found
  · next found =>
    cases (first _).symm.trans found
    rfl

/-- A mark is a token whatever follows it. -/
theorem Spells.mark {c : Char} (noGap : isGap c = false) (single : singleToken? c = some token)
    (spells : Spells spelling tokens rest) : Spells (c :: spelling) (token :: tokens) rest := by
  have alone : Spells [c] [token] (spelling ++ rest) := by
    refine spells_of_firstToken noGap fun offset => ?_
    unfold firstToken
    rw [single]
    rfl
  exact alone.append spells

/-- Two marks around a spelling. -/
theorem Spells.enclosed {first last : Char} {opening closing : Token} (noGap : isGap first = false)
    (opens : singleToken? first = some opening) (noGapLast : isGap last = false)
    (closes : singleToken? last = some closing) (spells : Spells spelling tokens (last :: rest)) :
    Spells (first :: (spelling ++ [last])) (opening :: (tokens ++ [closing])) rest :=
  .mark noGap opens (.append spells (.mark noGapLast closes (.nothing rest)))

/-- Whether a character may go on with a token that has no end of its own. -/
def goesOn (c : Char) : Bool := isNameChar c || isNumberChar c || c == '*'

/-- A text that no name and no number in front of it runs on into. -/
def Stops (rest : List Char) : Prop := ∀ c ∈ rest.head?, goesOn c = false

theorem Stops.nil : Stops [] := nofun

theorem Stops.cons {c : Char} (stops : goesOn c = false) (rest : List Char) :
    Stops (c :: rest) := fun _ same => Option.some.inj same ▸ stops

theorem Stops.noName (stops : Stops rest) : ∀ c ∈ rest.head?, isNameChar c = false := by
  intro c first
  have none := stops c first
  simp only [goesOn, Bool.or_eq_false_iff] at none
  exact none.1.1

theorem Stops.noNumber (stops : Stops rest) : ∀ c ∈ rest.head?, isNumberChar c = false := by
  intro c first
  have none := stops c first
  simp only [goesOn, Bool.or_eq_false_iff] at none
  exact none.1.2

theorem Stops.noStar (stops : Stops rest) (after : List Char) : rest ≠ '*' :: after := by
  rintro rfl
  cases stops '*' rfl

/-! ### Names -/

theorem IsName.scan {name : String} (isName : IsName name)
    (noName : ∀ c ∈ rest.head?, isNameChar c = false) :
    (name.toList ++ rest).takeWhile isNameChar = name.toList ∧
      (name.toList ++ rest).dropWhile isNameChar = rest ∧ name.toList.isEmpty = false :=
  have ⟨taken, left⟩ := scan_append isNameChar (List.all_eq_true.mp isName.characters) noName
  ⟨taken, left, List.isEmpty_eq_false_iff.mpr isName.notEmpty⟩

theorem spells_helper {name : String} (isName : IsName name) (stops : Stops rest) :
    Spells ('#' :: name.toList) [.helper name] rest := by
  refine spells_of_firstToken (by decide) fun offset => ?_
  obtain ⟨taken, left, notEmpty⟩ := isName.scan stops.noName
  show helperName (name.toList ++ rest) = _
  rw [helperName, taken, left, notEmpty, String.ofList_toList]
  rfl

theorem spells_symbol {name : String} (isName : IsName name) (stops : Stops rest) :
    Spells (':' :: name.toList) [.symbol name] rest := by
  refine spells_of_firstToken (by decide) fun offset => ?_
  obtain ⟨taken, left, notEmpty⟩ := isName.scan stops.noName
  show symbolName (name.toList ++ rest) = _
  unfold symbolName
  rw [taken, left]
  dsimp only
  rw [notEmpty, if_neg Bool.false_ne_true, String.ofList_toList]
  split
  · exact absurd rfl (stops.noStar _)
  · rfl

theorem spells_symbolStart {start : String} (isName : IsName start) (rest : List Char) :
    Spells (':' :: (start.toList ++ ['*'])) [.symbolStart start] rest := by
  refine spells_of_firstToken (by decide) fun offset => ?_
  have noName : ∀ c ∈ ('*' :: rest).head?, isNameChar c = false := by
    rintro _ ⟨⟩
    decide
  obtain ⟨taken, left, notEmpty⟩ := isName.scan noName
  show symbolName (start.toList ++ ['*'] ++ rest) = _
  rw [List.append_assoc]
  unfold symbolName
  rw [List.singleton_append, taken, left]
  dsimp only
  rw [notEmpty, if_neg Bool.false_ne_true, String.ofList_toList]
  rfl

/-! ### Words -/

theorem plain_of_isNameChar {c : Char} (nameChar : isNameChar c = true) :
    isGap c = false ∧ singleToken? c = none ∧ c ≠ '.' ∧ c ≠ '#' ∧ c ≠ ':' ∧ c ≠ '\'' ∧ c ≠ '"' ∧
      c ≠ '-' :=
  ascii_induction
    (fun c => isNameChar c = true → isGap c = false ∧ singleToken? c = none ∧ c ≠ '.' ∧ c ≠ '#' ∧
      c ≠ ':' ∧ c ≠ '\'' ∧ c ≠ '"' ∧ c ≠ '-')
    (by decide) (small_of_continuesPlainName nameChar) nameChar

/-- A name that starts no number is a token, if nothing runs on from it. -/
theorem spells_name {name : String} (isName : IsName name)
    (startsPlain : name.toList.head?.any Char.isDigit = false) (stops : Stops rest) :
    Spells name.toList [wordToken name.toList] rest := by
  obtain ⟨taken, left, -⟩ := isName.scan stops.noName
  cases characters : name.toList with
  | nil => exact absurd characters isName.notEmpty
  | cons c more =>
    have nameChar : isNameChar c = true :=
      List.all_eq_true.mp isName.characters c (characters ▸ List.mem_cons_self)
    obtain ⟨noGap, noSingle, noPoint, noHash, noColon, noQuote, noDoubleQuote, noMinus⟩ :=
      plain_of_isNameChar nameChar
    have noNumber : startsNumber (c :: (more ++ rest)) = false := by
      have noDigit : c.isDigit = false := by rwa [characters] at startsPlain
      unfold startsNumber
      split
      · next same => exact absurd (List.cons.inj same).1 noMinus
      · next same => exact (List.cons.inj same).1 ▸ noDigit
      · rfl
    refine spells_of_firstToken noGap fun offset => ?_
    rw [characters, List.cons_append] at taken left
    have noMark : ¬ (decide (c = '\'') || decide (c = '"')) = true := by
      simp [noQuote, noDoubleQuote]
    unfold firstToken
    rw [noSingle]
    dsimp only
    rw [if_neg noPoint, if_neg noHash, if_neg noColon, if_neg noMark, noNumber,
      if_neg Bool.false_ne_true, if_pos nameChar, taken, left]

theorem spells_word {word : String} (isWord : IsWord word) (stops : Stops rest) :
    Spells word.toList [.ident word] rest := by
  have spells := spells_name isWord.toIsName isWord.noDigit stops
  rwa [wordToken, if_neg isWord.notWildcard, String.ofList_toList] at spells

theorem spells_wildcard (stops : Stops rest) : Spells ['_'] [.wildcard] rest :=
  spells_name (by decide : IsName "_") (by decide) stops

/-! ### Texts and numbers -/

theorem spells_str {text : String} (noMark : '\'' ∉ text.toList) (rest : List Char) :
    Spells ('\'' :: (text.toList ++ ['\''])) [.str text] rest := by
  refine spells_of_firstToken (by decide) fun offset => ?_
  have kept : ∀ c ∈ text.toList, (c != '\'') = true := by
    intro c member
    exact bne_iff_ne.mpr fun same => noMark (same ▸ member)
  have stops : ∀ c ∈ ('\'' :: rest).head?, (c != '\'') = false := by
    rintro _ ⟨⟩
    rfl
  obtain ⟨taken, left⟩ := scan_append (· != '\'') kept stops
  show stringToken '\'' (text.toList ++ ['\''] ++ rest) = _
  rw [List.append_assoc]
  unfold stringToken
  rw [List.singleton_append, left, taken, String.ofList_toList]

theorem isNumberChar_of_isDigit {c : Char} (digit : c.isDigit = true) :
    isNumberChar c = true := by
  rw [isNumberChar, digit]
  rfl

/-- Where a number starts, its text is cut off whole. -/
theorem spells_of_numberToken {c : Char} {more : List Char}
    (starts : ∀ rest, startsNumber (c :: (more ++ rest)) = true)
    (kept : ∀ found ∈ c :: more, isNumberChar found = true)
    (isNumber : numberToken (c :: more) = .ok token) (stops : Stops rest) :
    Spells (c :: more) [token] rest := by
  obtain ⟨taken, left⟩ := scan_append isNumberChar kept stops.noNumber
  have numberChar : isNumberChar c = true := kept c List.mem_cons_self
  have digitOrMinus : c.isDigit = true ∨ c = '-' := by
    have started := starts []
    unfold startsNumber at started
    split at started
    · next same => exact .inr (List.cons.inj same).1
    · next same => exact .inl ((List.cons.inj same).1 ▸ started)
    · cases started
  have plain : isGap c = false ∧ singleToken? c = none ∧ c ≠ '.' ∧ c ≠ '#' ∧ c ≠ ':' ∧
      c ≠ '\'' ∧ c ≠ '"' := by
    obtain digit | rfl := digitOrMinus
    · have nameChar : isNameChar c = true := by
        rw [isNameChar, Char.isAlphanum, digit, Bool.or_true, Bool.true_or]
      obtain ⟨noGap, noSingle, noPoint, noHash, noColon, noQuote, noDoubleQuote, -⟩ :=
        plain_of_isNameChar nameChar
      exact ⟨noGap, noSingle, noPoint, noHash, noColon, noQuote, noDoubleQuote⟩
    · decide
  obtain ⟨noGap, noSingle, noPoint, noHash, noColon, noQuote, noDoubleQuote⟩ := plain
  have noMark : ¬ (decide (c = '\'') || decide (c = '"')) = true := by
    simp [noQuote, noDoubleQuote]
  refine spells_of_firstToken noGap fun offset => ?_
  rw [List.cons_append] at taken left
  unfold firstToken
  rw [noSingle]
  dsimp only
  rw [if_neg noPoint, if_neg noHash, if_neg noColon, if_neg noMark, starts rest, if_pos rfl, taken,
    left, isNumber]
  rfl

/-- Digits, after a minus or not, are the token of a number that fits 64 bits. -/
theorem numberToken_digits {text : List Char} {negative : Bool} {value : Int} {size : Nat}
    (parts : splitSign text = (negative, Nat.toDigits 10 size))
    (signed : (if negative then -(size : Int) else size) = value) (fits : fitsInt value = true)
    (whole : text.contains '.' = false) : numberToken text = .ok (.int value) := by
  have all : (Nat.toDigits 10 size).all Char.isDigit = true := by
    refine List.all_eq_true.mpr fun c member => ?_
    exact Nat.isDigit_of_mem_toDigits (by decide) (by decide) member
  have notEmpty : (Nat.toDigits 10 size).isEmpty = false :=
    List.isEmpty_eq_false_iff.mpr Nat.toDigits_ne_nil
  have inRange : ¬ (decide (value < -Int.pow 2 63) || decide (Int.pow 2 63 ≤ value)) = true := by
    simp only [fitsInt, Bool.and_eq_true, decide_eq_true_eq] at fits
    simp only [Bool.or_eq_true, decide_eq_true_eq, not_or, Int.not_lt, Int.not_le]
    exact fits
  have isInteger : integer? text = some value := by
    unfold integer?
    rw [parts]
    dsimp only
    rw [all, notEmpty, valueOf_toDigits, signed, if_neg (by decide), if_neg inRange]
  rw [numberToken, whole, if_neg Bool.false_ne_true, isInteger]

theorem contains_point_toDigits (size : Nat) : (Nat.toDigits 10 size).contains '.' = false := by
  rw [← Bool.not_eq_true, List.contains_iff_mem]
  intro member
  cases Nat.isDigit_of_mem_toDigits (by decide) (by decide) member

theorem spells_int {value : Int} (fits : fitsInt value = true) (stops : Stops rest) :
    Spells (toString value).toList [.int value] rest := by
  have kept (size : Nat) : ∀ c ∈ Nat.toDigits 10 size, isNumberChar c = true := by
    intro c member
    exact isNumberChar_of_isDigit (Nat.isDigit_of_mem_toDigits (by decide) (by decide) member)
  cases value with
  | ofNat size =>
    have spelt : (toString (Int.ofNat size)).toList = Nat.toDigits 10 size := Nat.toList_repr
    obtain ⟨digit, more, digits, isDigit⟩ := exists_digit size
    have noMinus : digit ≠ '-' := by
      rintro rfl
      cases isDigit
    have unsigned : splitSign (Nat.toDigits 10 size) = (false, Nat.toDigits 10 size) := by
      rw [digits, splitSign.eq_2]
      rintro _ ⟨⟩
      exact noMinus rfl
    have isNumber := numberToken_digits unsigned rfl fits (contains_point_toDigits size)
    have allKept := kept size
    rw [spelt]
    rw [digits] at isNumber allKept ⊢
    refine spells_of_numberToken (fun after => ?_) allKept isNumber stops
    unfold startsNumber
    split
    · next same => exact absurd (List.cons.inj same).1 noMinus
    · next same => exact (List.cons.inj same).1 ▸ isDigit
    · next same => cases same
  | negSucc size =>
    obtain ⟨digit, more, digits, isDigit⟩ := exists_digit (size + 1)
    have whole : ('-' :: Nat.toDigits 10 (size + 1)).contains '.' = false :=
      contains_point_toDigits (size + 1)
    have isNumber : numberToken ('-' :: Nat.toDigits 10 (size + 1)) =
        .ok (.int (Int.negSucc size)) := numberToken_digits rfl rfl fits whole
    have allKept : ∀ c ∈ '-' :: Nat.toDigits 10 (size + 1), isNumberChar c = true :=
      List.forall_mem_cons.mpr ⟨rfl, kept (size + 1)⟩
    rw [toString_negSucc]
    refine spells_of_numberToken (fun after => ?_) allKept isNumber stops
    rw [digits]
    exact isDigit

end Storefront.Pattern
