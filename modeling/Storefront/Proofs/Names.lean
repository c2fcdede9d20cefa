import Mathlib
import Storefront.Proofs.Exprs
import Storefront.Proofs.Rereading
import Storefront.Proofs.Stretches

/-!
The names in a tree, and how they stand in its text. Every name is a word of the text, so its
characters are those that may go on in a word. A word that stands by itself starts with a letter or
an underscore. One behind an at sign need not: there the first character is not looked at, and there
may be none.
-/

namespace Storefront.Script

open Storefront.Text Lexer

/-! ### Names -/

/-- Whether a text is a letter or an underscore, and behind it letters, numerals and underscores. -/
def isName (text : String) : Bool :=
  match text.toList with
  | [] => false
  | first :: rest => startsWord first && rest.all continuesWord

/-- The name that an expression is, or that it takes from another one. -/
def Expr.name? : Expr → Option String
  | .ident name | .member _ name => some name
  | _ => none

/-- The identifiers in an expression, and the names of the members. -/
def Expr.names (expr : Expr) : List String := expr.nodes.filterMap Expr.name?

/-- The names in what a statement holds, those of declared variables among them. -/
def Content.names : Content → List String
  | .expr value => value.names
  | .name text => [text]
  | .type _ => []

/-- The names in statements one after the other. -/
def namesOf (stmts : List Stmt) : List String := (contentsOf stmts).flatMap Content.names

/-- Whether a name is written among stretches: by itself if it is one, or behind an at sign if its
characters may go on in a word. -/
def WrittenIn (stretches : List Stretch) (name : String) : Prop :=
  isName name = true ∧ .lexeme name.toList (.word name) ∈ stretches ∨
    (∀ c ∈ name.toList, continuesWord c = true) ∧
      .lexeme ('@' :: name.toList) (.word name) ∈ stretches

/-! ### Names are words -/

theorem words_of_name? {expr : Expr} {name : String} (named : expr.name? = some name) :
    .word name ∈ expr.words := by
  cases expr with
  | ident own =>
    obtain rfl := Option.some.inj named
    exact List.mem_cons_self
  | member target own =>
    obtain rfl := Option.some.inj named
    exact List.mem_append_right _ List.mem_cons_self
  | _ => cases named

/-- The names of an expression are among its words. -/
theorem word_mem_words {expr : Expr} {name : String} (member : name ∈ expr.names) :
    .word name ∈ expr.words := by
  obtain ⟨node, isNode, named⟩ := List.mem_filterMap.mp member
  exact expr.each_words (fun _ isWord => isWord) node isNode _ (words_of_name? named)

theorem Content.word_mem_words {content : Content} {name : String}
    (member : name ∈ content.names) : .word name ∈ content.words := by
  cases content with
  | expr value => exact Script.word_mem_words member
  | name text =>
    obtain rfl := List.mem_singleton.mp member
    exact List.mem_cons_self
  | type text => cases member

/-! ### Words as they are written -/

/-- A number is no word. -/
theorem ne_word_of_number {text : List Char} {found : Found} (isNumber : number text = .ok found)
    (name : String) : found.1 ≠ .word name := by
  have ofHex {digits : List Char} (isHex : hexNumber digits = .ok found) :
      found.1 ≠ .word name := by
    unfold hexNumber at isHex
    dsimp only at isHex
    split at isHex
    · cases isHex
    · obtain rfl := Except.ok.inj isHex
      rintro ⟨⟩
  unfold number at isNumber
  split at isNumber
  · exact ofHex isNumber
  · exact ofHex isNumber
  · unfold decimalNumber at isNumber
    dsimp only at isNumber
    split at isNumber
    · obtain rfl := Except.ok.inj isNumber
      rintro ⟨⟩
    · split at isNumber
      · cases isNumber
      · obtain rfl := Except.ok.inj isNumber
        rintro ⟨⟩

theorem fixedTokens_ne_word : ∀ entry ∈ fixedTokens, ∀ name, entry.2 ≠ .word name := by
  simp [fixedTokens]

theorem ne_word_of_fixedToken? {text : List Char} {found : Found}
    (fixed : fixedToken? text = some found) (name : String) : found.1 ≠ .word name := by
  obtain ⟨entry, member, spelled⟩ := List.exists_of_findSome?_eq_some fixed
  obtain ⟨rest, _, rfl⟩ := Option.map_eq_some_iff.mp spelled
  exact fixedTokens_ne_word entry member name

theorem ne_word_of_characterLiteral {text : List Char} {found : Found}
    (isCharacter : characterLiteral text = .ok found) (name : String) :
    found.1 ≠ .word name := by
  unfold characterLiteral at isCharacter
  split at isCharacter
  · cases isCharacter
  · obtain rfl := Except.ok.inj isCharacter
    rintro ⟨⟩
  · cases isCharacter

/-- A word is cut off where characters of words stand, or behind an at sign. -/
theorem word_of_tokenPiece {c : Char} {rest after : List Char} {breaks : Nat} {fresh : Bool}
    {name : String} (isPiece : tokenPiece c rest = .ok ⟨some (.word name), breaks, fresh, after⟩) :
    startsWord c = true ∧ name.toList = (c :: rest).takeWhile continuesWord ∧
        after = (c :: rest).dropWhile continuesWord ∨
      c = '@' ∧ name.toList = rest.takeWhile continuesWord ∧
        after = rest.dropWhile continuesWord := by
  have form := tokenForm_of_tokenPiece isPiece
  generalize isFound : Piece.mk (some (.word name)) breaks fresh after = found at form
  have isWord : found.token = some (.word name) := isFound ▸ rfl
  have isRest : found.rest = after := isFound ▸ rfl
  cases form with
  | number isNumber => exact absurd (Option.some.inj isWord) (ne_word_of_number isNumber name)
  | word starts =>
    obtain rfl := Token.word.inj (Option.some.inj isWord)
    exact .inl ⟨starts, String.toList_ofList, isRest.symm⟩
  | atWord isAt =>
    obtain rfl := Token.word.inj (Option.some.inj isWord)
    exact .inr ⟨isAt, String.toList_ofList, isRest.symm⟩
  | verbatim _ _ | str _ => cases isWord
  | char isCharacter =>
    exact absurd (Option.some.inj isWord) (ne_word_of_characterLiteral isCharacter name)
  | fixed isFixed => exact absurd (Option.some.inj isWord) (ne_word_of_fixedToken? isFixed name)

/-- What is a word from the first character to the last is the word, or stands behind an at sign. -/
theorem word_of_whole {spelling : List Char} {name : String}
    (whole : Whole spelling (.word name)) :
    isName name = true ∧ spelling = name.toList ∨
      (∀ c ∈ name.toList, continuesWord c = true) ∧ spelling = '@' :: name.toList := by
  have taken {text : List Char} (nothing : [] = text.dropWhile continuesWord) :
      text.takeWhile continuesWord = text := by
    have both := List.takeWhile_append_dropWhile (p := continuesWord) (l := text)
    rwa [← nothing, List.append_nil] at both
  obtain ⟨c, rest, breaks, rfl, isPiece⟩ := whole
  rcases word_of_tokenPiece isPiece with ⟨starts, word, nothing⟩ | ⟨rfl, word, nothing⟩
  · rw [taken nothing] at word
    refine .inl ⟨?_, word.symm⟩
    have goesOn := List.all_eq_true.mpr fun each (member : each ∈ rest) =>
      List.dropWhile_eq_nil_iff.mp nothing.symm each (List.mem_cons_of_mem c member)
    rw [isName, word]
    exact Bool.and_eq_true_iff.mpr ⟨starts, goesOn⟩
  · rw [taken nothing] at word
    rw [word]
    exact .inr ⟨List.dropWhile_eq_nil_iff.mp nothing.symm, rfl⟩

/-! ### Tokens as stretches -/

/-- Every token is the token of a stretch. -/
theorem exists_of_locate {line : Nat} {stretches : List Stretch} {token : Located Token}
    (member : token ∈ locate line stretches) :
    ∃ spelling, .lexeme spelling token.value ∈ stretches := by
  induction stretches generalizing line with
  | nil => cases member
  | cons stretch rest inductionHypothesis =>
    rcases List.mem_append.mp member with here | later
    · obtain ⟨own, isOwn, rfl⟩ := List.mem_map.mp here
      cases stretch with
      | lexeme spelling own =>
        obtain rfl := List.mem_singleton.mp isOwn
        exact ⟨spelling, List.mem_cons_self⟩
      | _ => cases isOwn
    · obtain ⟨spelling, isStretch⟩ := inductionHypothesis later
      exact ⟨spelling, List.mem_cons_of_mem _ isStretch⟩

theorem whole_of_fitting {before : List Char} {stretches : List Stretch}
    (fitting : Fitting before stretches) {spelling : List Char} {token : Token}
    (member : .lexeme spelling token ∈ stretches) : Whole spelling token := by
  induction stretches generalizing before with
  | nil => cases member
  | cons stretch rest inductionHypothesis =>
    obtain ⟨fits, later⟩ := fitting
    cases member with
    | head => exact fits.2
    | tail _ member => exact inductionHypothesis later member

/-- A name whose word is a token is written among the stretches of the text. -/
theorem writtenIn_of_mem {stretches : List Stretch} (fitting : Fitting [] stretches) {line : Nat}
    {name : String} (member : .word name ∈ (locate line stretches).map Located.value) :
    WrittenIn stretches name := by
  obtain ⟨token, isToken, isWord⟩ := List.mem_map.mp member
  obtain ⟨spelling, isStretch⟩ := exists_of_locate isToken
  rw [isWord] at isStretch
  rcases word_of_whole (whole_of_fitting fitting isStretch) with ⟨named, rfl⟩ | ⟨goesOn, rfl⟩
  · exact .inl ⟨named, isStretch⟩
  · exact .inr ⟨goesOn, isStretch⟩

/-- Names whose words are tokens of a text are written among its stretches. -/
theorem exists_writtenIn {text : String} {lexed : Lexed} (cut : lex text = .ok lexed)
    {names : List String}
    (areTokens : ∀ name ∈ names, .word name ∈ lexed.tokens.map Located.value) :
    ∃ stretches, textOf stretches = text.toList ∧ Fitting [] stretches ∧
      ∀ name ∈ names, WrittenIn stretches name := by
  obtain ⟨stretches, whole, fitting, rfl⟩ := exists_stretches cut
  exact ⟨stretches, whole, fitting,
    fun name member => writtenIn_of_mem fitting (areTokens name member)⟩

/-! ### The names of a text -/

/-- Any characters that may go on in a word are a name behind an at sign, unless the word is
reserved. -/
theorem parseExpr_at {word : List Char} (goesOn : ∀ c ∈ word, continuesWord c = true)
    (free : isReserved (String.ofList word) = false) :
    parseExpr (String.ofList ('@' :: word)) = .ok (.ident (String.ofList word)) := by
  have noMark : word.head? ≠ some '"' := fun first =>
    absurd (goesOn '"' (List.mem_of_mem_head? first)) (by decide)
  have taken : word.takeWhile continuesWord = word := List.takeWhile_eq_self_iff.mpr goesOn
  have left : word.dropWhile continuesWord = [] := List.dropWhile_eq_nil_iff.mpr goesOn
  have isPiece : piece true '@' word = .ok ⟨some (.word (String.ofList word)), 0, false, []⟩ := by
    show tokenPiece '@' word = _
    rw [tokenPiece_atWord noMark, taken, left]
    rfl
  have lexes : lex (String.ofList ('@' :: word)) =
      .ok ⟨(Expr.ident (String.ofList word)).located ++ [], 1⟩ := by
    rw [lex, String.toList_ofList, lexFrom_token isPiece, lexFrom]
    rfl
  have noGeneric : NoGenericCall ((Expr.ident (String.ofList word)).located ++ []) := by
    intro tail ends
    rcases List.suffix_cons_iff.mp ends with rfl | ends
    · rfl
    · obtain rfl := List.suffix_nil.mp ends
      rfl
  have asHead : ReadsAsHead 1 (.ident (String.ofList word)) := readsAsHead_ident free
  have reads := (asHead.reads rfl).asWhole [] noGeneric (Loose.nil 0)
  exact parseExpr_eq_ok.mpr ⟨_, lexes, reads⟩

/-- Every name in the tree of a text is a word of the text. It is a name by itself, or what stands
behind an at sign: then its characters may go on in a word, but it may start with a numeral, and it
may be empty. -/
theorem names_written (text : String) :
    (∀ expr, parseExpr text = .ok expr →
        ∃ stretches, textOf stretches = text.toList ∧ Fitting [] stretches ∧
          ∀ name ∈ expr.names, WrittenIn stretches name) ∧
      ∀ stmts, parseProcedure text = .ok stmts →
        ∃ stretches, textOf stretches = text.toList ∧ Fitting [] stretches ∧
          ∀ name ∈ namesOf stmts, WrittenIn stretches name := by
  constructor
  · intro expr parsed
    obtain ⟨lexed, cut, areTokens⟩ := parseExpr_words parsed
    exact exists_writtenIn cut fun name member => areTokens _ (word_mem_words member)
  · intro stmts parsed
    obtain ⟨lexed, cut, areTokens⟩ := parseProcedure_words parsed
    refine exists_writtenIn cut fun name member => ?_
    obtain ⟨content, isContent, named⟩ := List.mem_flatMap.mp member
    exact areTokens content isContent _ (Content.word_mem_words named)

/-- A numeral behind an at sign, and names that stand by themselves. -/
theorem names_written_numeral :
    parseExpr "@1.b" = .ok (.member (.ident "1") "b") ∧
      parseProcedure "foreach (var c in d) ;" = .ok [.foreach "var" "c" (.ident "d") .empty] ∧
      (∃ stretches, textOf stretches = "@1.b".toList ∧ Fitting [] stretches ∧
        ∀ name ∈ ["b", "1"], WrittenIn stretches name) ∧
      ∃ stretches, textOf stretches = "foreach (var c in d) ;".toList ∧ Fitting [] stretches ∧
        ∀ name ∈ ["c", "d"], WrittenIn stretches name := by
  have expr : parseExpr "@1.b" = .ok (.member (.ident "1") "b") := by cbv
  have stmts : parseProcedure "foreach (var c in d) ;" =
      .ok [.foreach "var" "c" (.ident "d") .empty] := by cbv
  exact ⟨expr, stmts, (names_written _).1 _ expr, (names_written _).2 _ stmts⟩

/-- An at sign alone is read as a name without characters. -/
theorem name_missing_at :
    ∃ expr, parseExpr "@" = .ok expr ∧ ∃ name ∈ expr.names, isName name = false := by
  have parsed : parseExpr "@" = .ok (.ident "") :=
    parseExpr_at (List.forall_mem_nil _) (by decide)
  exact ⟨.ident "", parsed, "", List.mem_singleton_self "", by decide⟩

end Storefront.Script
