import Mathlib.Data.List.Basic
import Storefront.Script.Lexer

/-!
Cutting a text line by line. A line break ends every token that stands in front of it, so that the
text above it is cut as if nothing followed. Only a block comment and a verbatim string reach over
it: where one of them is open, the text below decides whether it ever ends.
-/

namespace Storefront.Script

open Storefront.Text

namespace Lexer

/-- What was found at the start of a text, when a line break and further lines stand behind it. -/
def above {α : Type} (lines : List Char) (found : α × List Char) : α × List Char :=
  (found.1, found.2 ++ '\n' :: lines)

/-- The same piece with a line break and further lines behind it. -/
def Piece.above (lines : List Char) (piece : Piece) : Piece :=
  { piece with rest := piece.rest ++ '\n' :: lines }

/-! ### Runs of characters -/

theorem takeWhile_above {keep : Char → Bool} (stops : keep '\n' = false) (text lines : List Char) :
    (text ++ '\n' :: lines).takeWhile keep = text.takeWhile keep := by
  induction text with
  | nil => rw [List.nil_append, List.takeWhile_cons_of_neg (Bool.eq_false_iff.mp stops)]; rfl
  | cons c rest inductionHypothesis =>
    rw [List.cons_append, List.takeWhile_cons, List.takeWhile_cons, inductionHypothesis]

theorem dropWhile_above {keep : Char → Bool} (stops : keep '\n' = false) (text lines : List Char) :
    (text ++ '\n' :: lines).dropWhile keep = text.dropWhile keep ++ '\n' :: lines := by
  induction text with
  | nil => rw [List.nil_append, List.dropWhile_cons_of_neg (Bool.eq_false_iff.mp stops)]; rfl
  | cons c rest inductionHypothesis =>
    rw [List.cons_append, List.dropWhile_cons, List.dropWhile_cons, inductionHypothesis]
    split <;> rfl

theorem restOfLine_above (text lines : List Char) :
    restOfLine (text ++ '\n' :: lines) = restOfLine text ++ '\n' :: lines :=
  dropWhile_above (by decide) text lines

/-! ### Operators and punctuation -/

theorem afterSpelling?_above {spelling : List Char} (single : '\n' ∉ spelling)
    (text lines : List Char) :
    afterSpelling? spelling (text ++ '\n' :: lines) =
      (afterSpelling? spelling text).map (· ++ '\n' :: lines) := by
  fun_induction afterSpelling? spelling text with
  | case1 => rfl
  | case2 expected spelling =>
    have other : (expected == '\n') = false :=
      beq_eq_false_iff_ne.mpr fun same => single (same ▸ List.mem_cons_self)
    rw [List.nil_append, afterSpelling?, other]
    rfl
  | case3 expected spelling c text same inductionHypothesis =>
    rw [List.cons_append, afterSpelling?, if_pos same]
    exact inductionHypothesis fun member => single (List.mem_cons_of_mem _ member)
  | case4 expected spelling c text other =>
    rw [List.cons_append, afterSpelling?, if_neg other]
    rfl

theorem fixedTokens_single : ∀ entry ∈ fixedTokens, '\n' ∉ entry.1 := by decide

/-- A search whose every step finds the same up to a change finds the same up to that change. -/
theorem findSome?_of_forall {α β γ : Type} {first : α → Option β} {second : α → Option γ}
    {change : β → γ} {listed : List α}
    (each : ∀ entry ∈ listed, second entry = (first entry).map change) :
    listed.findSome? second = (listed.findSome? first).map change := by
  induction listed with
  | nil => rfl
  | cons entry rest inductionHypothesis =>
    obtain ⟨here, later⟩ := List.forall_mem_cons.mp each
    rw [List.findSome?_cons, List.findSome?_cons, here]
    cases first entry with
    | none => exact inductionHypothesis later
    | some found => rfl

theorem fixedToken?_above (text lines : List Char) :
    fixedToken? (text ++ '\n' :: lines) = (fixedToken? text).map (above lines) := by
  refine findSome?_of_forall fun entry member => ?_
  rw [afterSpelling?_above (fixedTokens_single entry member), Option.map_map, Option.map_map]
  rfl

/-! ### Numbers -/

theorem hexNumber_above (text lines : List Char) :
    hexNumber (text ++ '\n' :: lines) = (hexNumber text).map (above lines) := by
  unfold hexNumber
  rw [takeWhile_above rfl, dropWhile_above rfl, dropWhile_above rfl]
  dsimp only
  split <;> rfl

theorem optionalPart_above {Part : Type} {scan : List Char → Option (Part × List Char)}
    {text lines : List Char}
    (scanned : scan (text ++ '\n' :: lines) = (scan text).map (above lines)) :
    optionalPart scan (text ++ '\n' :: lines) = above lines (optionalPart scan text) := by
  unfold optionalPart
  rw [scanned]
  cases scan text <;> rfl

theorem fraction_above (text lines : List Char) :
    fraction (text ++ '\n' :: lines) = (fraction text).map (above lines) := by
  match text with
  | [] => rfl
  | [c] =>
    by_cases point : c = '.'
    · subst point
      rfl
    · simp [fraction, point]
  | c :: digit :: rest =>
    by_cases point : c = '.'
    · subst point
      rw [List.cons_append, List.cons_append, fraction, fraction, ← List.cons_append,
        takeWhile_above rfl, dropWhile_above rfl]
      split <;> rfl
    · simp [fraction, point]

theorem exponentSign_above (text lines : List Char) :
    exponentSign (text ++ '\n' :: lines) = above lines (exponentSign text) := by
  cases text with
  | nil => rfl
  | cons c rest =>
    by_cases plus : c = '+'
    · subst plus
      rfl
    · by_cases minus : c = '-'
      · subst minus
        rfl
      · simp [exponentSign, above, plus, minus]

theorem exponent_above (text lines : List Char) :
    exponent (text ++ '\n' :: lines) = (exponent text).map (above lines) := by
  cases text with
  | nil => rfl
  | cons mark rest =>
    have stops : Char.isDigit '\n' = false := rfl
    simp only [List.cons_append, exponent, exponentSign_above, above, takeWhile_above stops,
      dropWhile_above stops]
    split <;> rfl

theorem realSuffix_above (text lines : List Char) :
    realSuffix (text ++ '\n' :: lines) = (realSuffix text).map (above lines) := by
  cases text with
  | nil => rfl
  | cons mark rest =>
    rw [List.cons_append, realSuffix, realSuffix]
    split <;> rfl

theorem decimalNumber_above (text lines : List Char) :
    decimalNumber (text ++ '\n' :: lines) = (decimalNumber text).map (above lines) := by
  have stops : isDigitOrGap '\n' = false := rfl
  have letters : isIntSuffix '\n' = false := rfl
  simp only [decimalNumber, takeWhile_above stops, dropWhile_above stops, dropWhile_above letters,
    optionalPart_above (fraction_above _ lines), optionalPart_above (exponent_above _ lines),
    optionalPart_above (realSuffix_above _ lines), above]
  split
  · rfl
  · split <;> rfl

theorem number_above (text lines : List Char) :
    number (text ++ '\n' :: lines) = (number text).map (above lines) := by
  match text with
  | [] => exact decimalNumber_above [] lines
  | [c] =>
    by_cases zero : c = '0'
    · subst zero
      exact decimalNumber_above ['0'] lines
    · simpa [number, zero] using decimalNumber_above [c] lines
  | c :: mark :: rest =>
    by_cases zero : c = '0'
    · subst zero
      by_cases lower : mark = 'x'
      · subst lower
        exact hexNumber_above rest lines
      · by_cases upper : mark = 'X'
        · subst upper
          exact hexNumber_above rest lines
        · simpa [number, lower, upper] using decimalNumber_above ('0' :: mark :: rest) lines
    · simpa [number, zero] using decimalNumber_above (c :: mark :: rest) lines

theorem startsNumber_above (text lines : List Char) :
    startsNumber (text ++ '\n' :: lines) = startsNumber text := by
  match text with
  | [] => rfl
  | [c] | c :: next :: rest =>
    by_cases point : c = '.'
    · subst point
      rfl
    · simp [startsNumber, point]

/-! ### Quotations -/

theorem toOption_map {ε α β : Type} (change : α → β) (result : Except ε α) :
    (result.map change).toOption = result.toOption.map change := by
  cases result <;> rfl

/-- A string does not reach over a line break. -/
theorem stringBody_above (text lines : List Char) :
    (stringBody (text ++ '\n' :: lines)).toOption =
      (stringBody text).toOption.map (above lines) := by
  fun_induction stringBody text with
  | case1 | case2 | case3 | case4 => rfl
  | case5 c rest noMeaning =>
    rw [List.cons_append, List.cons_append, stringBody, noMeaning]
    rfl
  | case6 c rest meaning isMeaning inductionHypothesis =>
    rw [List.cons_append, List.cons_append, stringBody, isMeaning]
    dsimp only
    rw [toOption_map, toOption_map, inductionHypothesis, Option.map_map, Option.map_map]
    rfl
  | case7 c rest noMark noBreak noLast noEscape inductionHypothesis =>
    have noBackslash : c ≠ '\\' := by
      rintro rfl
      cases rest with
      | nil => exact noLast rfl rfl
      | cons escape rest => exact noEscape escape rest rfl rfl
    rw [List.cons_append, stringBody.eq_6 c _ noMark noBreak (fun same => absurd same noBackslash)
      (fun _ _ same => absurd same noBackslash), toOption_map, toOption_map, inductionHypothesis,
      Option.map_map, Option.map_map]
    rfl

theorem escape_above (text lines : List Char) :
    (escape (text ++ '\n' :: lines)).toOption = (escape text).toOption.map (above lines) := by
  cases text with
  | nil => rfl
  | cons c rest =>
    rw [List.cons_append, escape, escape]
    cases escapeMeaning? c <;> rfl

theorem literalCharacter_above (text lines : List Char) :
    (literalCharacter (text ++ '\n' :: lines)).toOption =
      (literalCharacter text).toOption.map (above lines) := by
  cases text with
  | nil => rfl
  | cons c rest =>
    by_cases backslash : c = '\\'
    · subst backslash
      exact escape_above rest lines
    · rw [List.cons_append, literalCharacter.eq_2 c _ backslash,
        literalCharacter.eq_2 c _ backslash]
      split <;> rfl

theorem characterLiteral_above (text lines : List Char) :
    (characterLiteral (text ++ '\n' :: lines)).toOption =
      (characterLiteral text).toOption.map (above lines) := by
  have literal := literalCharacter_above text lines
  rw [characterLiteral.eq_def, characterLiteral.eq_def]
  cases found : literalCharacter text with
  | error fault =>
    rw [found] at literal
    cases below : literalCharacter (text ++ '\n' :: lines) with
    | error => rfl
    | ok => simp [below, Except.toOption] at literal
  | ok value =>
    obtain ⟨c, rest⟩ := value
    rw [found] at literal
    cases below : literalCharacter (text ++ '\n' :: lines) with
    | error => simp [below, Except.toOption] at literal
    | ok value =>
      rw [below] at literal
      obtain rfl := Option.some.inj literal
      cases rest with
      | nil => rfl
      | cons mark rest =>
        by_cases closes : mark = '\''
        · subst closes
          rfl
        · simp [closes, above, Except.toOption]

theorem verbatimBody_of_notMem {text : List Char} (noMark : '"' ∉ text) :
    verbatimBody text = none := by
  fun_induction verbatimBody text with
  | case1 => rfl
  | case2 | case3 => exact absurd List.mem_cons_self noMark
  | case4 c rest _ _ inductionHypothesis =>
    rw [inductionHypothesis fun member => noMark (List.mem_cons_of_mem _ member)]
    rfl

/-- A verbatim string that is open at a line break stays open where no quotation mark follows. -/
theorem verbatimBody_above (text lines : List Char)
    (kept : (verbatimBody text).isSome = true ∨ '"' ∉ lines) :
    verbatimBody (text ++ '\n' :: lines) = (verbatimBody text).map (above lines) := by
  fun_induction verbatimBody text with
  | case1 =>
    refine verbatimBody_of_notMem fun member => ?_
    rcases List.mem_cons.mp member with same | member
    · cases same
    · exact kept.elim (fun ends => absurd ends Bool.false_ne_true) (· member)
  | case2 rest inductionHypothesis =>
    rw [Option.isSome_map] at kept
    rw [List.cons_append, List.cons_append, verbatimBody, inductionHypothesis kept,
      Option.map_map, Option.map_map]
    rfl
  | case3 rest notDoubled =>
    rw [List.cons_append, verbatimBody.eq_3]
    · rfl
    · intro after same
      cases rest with
      | nil => cases same
      | cons c rest => exact notDoubled _ (congrArg (· :: rest) (List.cons.inj same).1)
  | case4 c rest noPair noMark inductionHypothesis =>
    rw [Option.isSome_map] at kept
    rw [List.cons_append, verbatimBody.eq_4 c _ (fun _ mark => absurd mark noMark) noMark,
      inductionHypothesis kept, Option.map_map, Option.map_map]
    rfl

theorem commentBody_of_notMem {text : List Char} (noSlash : '/' ∉ text) :
    commentBody text = none := by
  fun_induction commentBody text with
  | case1 => rfl
  | case2 => exact absurd (List.mem_cons_of_mem _ List.mem_cons_self) noSlash
  | case3 c rest _ _ inductionHypothesis =>
    rw [inductionHypothesis fun member => noSlash (List.mem_cons_of_mem _ member)]
    rfl
  | case4 c rest _ _ inductionHypothesis =>
    exact inductionHypothesis fun member => noSlash (List.mem_cons_of_mem _ member)

theorem noEnd_above {c : Char} {rest : List Char}
    (noEnd : ∀ after, c = '*' → rest = '/' :: after → False) (lines after : List Char) :
    c = '*' → rest ++ '\n' :: lines = '/' :: after → False := by
  intro star slash
  cases rest with
  | nil => cases slash
  | cons next rest => exact noEnd rest star (congrArg (· :: rest) (List.cons.inj slash).1)

/-- A block comment that is open at a line break stays open where no slash follows. -/
theorem commentBody_above (text lines : List Char)
    (kept : (commentBody text).isSome = true ∨ '/' ∉ lines) :
    commentBody (text ++ '\n' :: lines) = (commentBody text).map (above lines) := by
  fun_induction commentBody text with
  | case1 =>
    refine commentBody_of_notMem fun member => ?_
    rcases List.mem_cons.mp member with same | member
    · cases same
    · exact kept.elim (fun ends => absurd ends Bool.false_ne_true) (· member)
  | case2 rest => rfl
  | case3 c rest noEnd isBreak inductionHypothesis =>
    rw [Option.isSome_map] at kept
    rw [List.cons_append, commentBody.eq_3 c _ (noEnd_above noEnd lines), if_pos isBreak,
      inductionHypothesis kept, Option.map_map, Option.map_map]
    rfl
  | case4 c rest noEnd noBreak inductionHypothesis =>
    rw [List.cons_append, commentBody.eq_3 c _ (noEnd_above noEnd lines), if_neg noBreak,
      inductionHypothesis kept]

/-! ### Pieces -/

/-- Nothing in these lines ends a block comment or a verbatim string. -/
def EndsNothing (lines : List Char) : Prop := '"' ∉ lines ∧ '/' ∉ lines

theorem word_above (text lines : List Char) :
    Piece.ofFound (.word (String.ofList ((text ++ '\n' :: lines).takeWhile continuesWord)),
        (text ++ '\n' :: lines).dropWhile continuesWord) =
      (Piece.ofFound (.word (String.ofList (text.takeWhile continuesWord)),
        text.dropWhile continuesWord)).above lines := by
  have stops : continuesWord '\n' = false := by decide
  rw [takeWhile_above stops, dropWhile_above stops]
  rfl

theorem tokenPiece_verbatim (text : List Char) :
    tokenPiece '@' ('"' :: text) =
      match verbatimBody text with
      | some body => .ok ⟨some (.str (String.ofList body.1)), body.1.count '\n', false, body.2⟩
      | none => .error .unterminatedString := rfl

theorem tokenPiece_atWord {text : List Char} (noMark : text.head? ≠ some '"') :
    tokenPiece '@' text = .ok (.ofFound (.word (String.ofList (text.takeWhile continuesWord)),
      text.dropWhile continuesWord)) := by
  cases text with
  | nil => rfl
  | cons mark text =>
    have other : mark ≠ '"' := fun same => noMark (congrArg some same)
    have noNumber : ¬ startsNumber ('@' :: mark :: text) = true := Bool.false_ne_true
    have noWord : ¬ startsWord '@' = true := by decide
    unfold tokenPiece
    rw [if_neg noNumber, if_neg noWord, if_pos rfl]
    split
    · next same => exact absurd (List.cons.inj same).1 other
    · rfl

/-- An at sign starts a verbatim string or a word. -/
theorem tokenPiece_at_above (rest lines : List Char)
    (kept : (tokenPiece '@' rest).toOption.isSome = true ∨ EndsNothing lines) :
    (tokenPiece '@' (rest ++ '\n' :: lines)).toOption =
      (tokenPiece '@' rest).toOption.map (Piece.above lines) := by
  by_cases isMark : rest.head? = some '"'
  · obtain ⟨text, rfl⟩ : ∃ text, rest = '"' :: text := by
      cases rest with
      | nil => cases isMark
      | cons mark text => exact ⟨text, congrArg (· :: text) (Option.some.inj isMark)⟩
    rw [tokenPiece_verbatim] at kept
    have closed : (verbatimBody text).isSome = true ∨ '"' ∉ lines := by
      refine kept.imp (fun ends => ?_) And.left
      cases found : verbatimBody text with
      | none =>
        rw [found] at ends
        cases ends
      | some => rfl
    have body := verbatimBody_above text lines closed
    rw [List.cons_append, tokenPiece_verbatim, tokenPiece_verbatim, body]
    cases verbatimBody text <;> rfl
  · have noMark : (rest ++ '\n' :: lines).head? ≠ some '"' := by
      cases rest with
      | nil => exact fun same => nomatch same
      | cons mark text => exact isMark
    rw [tokenPiece_atWord isMark, tokenPiece_atWord noMark]
    exact congrArg some (word_above rest lines)

theorem tokenPiece_above (c : Char) (rest lines : List Char)
    (kept : (tokenPiece c rest).toOption.isSome = true ∨ EndsNothing lines) :
    (tokenPiece c (rest ++ '\n' :: lines)).toOption =
      (tokenPiece c rest).toOption.map (Piece.above lines) := by
  by_cases isAt : c = '@'
  · subst isAt
    exact tokenPiece_at_above rest lines kept
  have starts := startsNumber_above (c :: rest) lines
  have number := number_above (c :: rest) lines
  have fixed := fixedToken?_above (c :: rest) lines
  rw [List.cons_append] at starts number fixed
  unfold tokenPiece
  rw [starts]
  by_cases isNumber : startsNumber (c :: rest) = true
  · rw [if_pos isNumber, if_pos isNumber, number, toOption_map, toOption_map, toOption_map,
      Option.map_map, Option.map_map]
    rfl
  rw [if_neg isNumber, if_neg isNumber]
  by_cases isWord : startsWord c = true
  · rw [if_pos isWord, if_pos isWord]
    exact congrArg some (word_above (c :: rest) lines)
  rw [if_neg isWord, if_neg isWord]
  rw [if_neg isAt, if_neg isAt]
  by_cases isString : c = '"'
  · rw [if_pos isString, if_pos isString, toOption_map, toOption_map, stringBody_above,
      Option.map_map, Option.map_map]
    rfl
  rw [if_neg isString, if_neg isString]
  by_cases isCharacter : c = '\''
  · rw [if_pos isCharacter, if_pos isCharacter, toOption_map, toOption_map,
      characterLiteral_above, Option.map_map, Option.map_map]
    rfl
  rw [if_neg isCharacter, if_neg isCharacter]
  have sameMark : ((rest ++ '\n' :: lines).head? == some '"') = (rest.head? == some '"') := by
    cases rest <;> rfl
  rw [sameMark]
  split
  · rfl
  · rw [fixed]
    cases fixedToken? (c :: rest) <;> rfl

/-- A piece ends before the next line, unless it is open there and something there ends it. -/
theorem piece_above (fresh : Bool) (c : Char) (rest lines : List Char)
    (kept : (piece fresh c rest).toOption.isSome = true ∨ EndsNothing lines) :
    (piece fresh c (rest ++ '\n' :: lines)).toOption =
      (piece fresh c rest).toOption.map (Piece.above lines) := by
  have sameHead {mark : Char} (noBreak : ('\n' == mark) = false) :
      ((rest ++ '\n' :: lines).head? == some mark) = (rest.head? == some mark) := by
    cases rest with
    | nil => exact noBreak
    | cons => rfl
  unfold piece at kept ⊢
  by_cases isBreak : c = '\n'
  · rw [if_pos isBreak, if_pos isBreak]
    rfl
  rw [if_neg isBreak] at kept
  rw [if_neg isBreak, if_neg isBreak]
  by_cases blank : isBlank c = true
  · rw [if_pos blank, if_pos blank]
    rfl
  rw [if_neg blank] at kept
  rw [if_neg blank, if_neg blank]
  by_cases directive : (c = '#' && fresh) = true
  · rw [if_pos directive, if_pos directive, restOfLine_above]
    rfl
  rw [if_neg directive] at kept
  rw [if_neg directive, if_neg directive, sameHead rfl, sameHead rfl]
  by_cases lineComment : (c = '/' && rest.head? == some '/') = true
  · rw [if_pos lineComment, if_pos lineComment, restOfLine_above]
    rfl
  rw [if_neg lineComment] at kept
  rw [if_neg lineComment, if_neg lineComment]
  by_cases blockComment : (c = '/' && rest.head? == some '*') = true
  · rw [if_pos blockComment] at kept
    rw [if_pos blockComment, if_pos blockComment]
    have behind : (rest ++ '\n' :: lines).tail = rest.tail ++ '\n' :: lines := by
      cases rest with
      | nil => simp at blockComment
      | cons => rfl
    have closed : (commentBody rest.tail).isSome = true ∨ '/' ∉ lines := by
      refine kept.imp (fun ends => ?_) And.right
      cases found : commentBody rest.tail with
      | none =>
        rw [found] at ends
        cases ends
      | some => rfl
    have body := commentBody_above rest.tail lines closed
    rw [behind, body]
    cases commentBody rest.tail <;> rfl
  rw [if_neg blockComment] at kept
  rw [if_neg blockComment, if_neg blockComment]
  exact tokenPiece_above c rest lines kept

theorem eq_ok_of_toOption {ε α : Type} {result : Except ε α} {value : α}
    (same : result.toOption = some value) : result = .ok value := by
  cases result with
  | error => cases same
  | ok => exact congrArg Except.ok (Option.some.inj same)

theorem exists_error_of_toOption {ε α : Type} {result : Except ε α}
    (same : result.toOption = none) : ∃ fault, result = .error fault := by
  cases result with
  | error fault => exact ⟨fault, rfl⟩
  | ok => cases same

theorem piece_above_of_ok {fresh : Bool} {c : Char} {rest : List Char} {found : Piece}
    (isPiece : piece fresh c rest = .ok found) (lines : List Char) :
    piece fresh c (rest ++ '\n' :: lines) = .ok (found.above lines) := by
  have same := piece_above fresh c rest lines (.inl (by rw [isPiece]; rfl))
  rw [isPiece] at same
  exact eq_ok_of_toOption same

end Lexer

/-! ### Whole texts -/

open Lexer

/-- The same with tokens in front. -/
def Lexed.prepend (tokens : List (Located Token)) (lexed : Lexed) : Lexed :=
  ⟨tokens ++ lexed.tokens, lexed.lastLine⟩

/-- The lines below a text are cut on their own, from the line after its last one on. -/
theorem lexFrom_above (line : Nat) (fresh : Bool) (text lines : List Char) :
    ∀ lexed, lexFrom line fresh text = .ok lexed →
      lexFrom line fresh (text ++ '\n' :: lines) =
        (lexFrom (lexed.lastLine + 1) true lines).map (Lexed.prepend lexed.tokens) := by
  fun_induction lexFrom line fresh text with
  | case1 line fresh =>
    rintro _ ⟨⟩
    have isBreak : piece fresh '\n' lines = .ok ⟨none, 1, true, lines⟩ := rfl
    rw [List.nil_append, lexFrom_passed isBreak]
    cases lexFrom (line + 1) true lines <;> rfl
  | case2 line fresh c rest fault isPiece =>
    rintro _ ⟨⟩
  | case3 line fresh c rest breaks stillFresh after isPiece inductionHypothesis =>
    intro lexed cut
    rw [List.cons_append, lexFrom_passed (piece_above_of_ok isPiece lines)]
    exact inductionHypothesis lexed cut
  | case4 line fresh c rest token breaks stillFresh after isPiece inductionHypothesis =>
    intro lexed cut
    obtain ⟨others, cutOthers, rfl⟩ := eq_ok_of_map_eq_ok cut
    rw [List.cons_append, lexFrom_token (piece_above_of_ok isPiece lines),
      inductionHypothesis others cutOthers]
    show _ = (lexFrom (others.lastLine + 1) true lines).map _
    cases lexFrom (others.lastLine + 1) true lines <;> rfl

/-- A text with a fault keeps one when no line below it ends what it leaves open. -/
theorem lexFrom_above_of_error (line : Nat) (fresh : Bool) (text : List Char) {lines : List Char}
    (endsNothing : EndsNothing lines) :
    ∀ error, lexFrom line fresh text = .error error →
      ∃ error, lexFrom line fresh (text ++ '\n' :: lines) = .error error := by
  fun_induction lexFrom line fresh text with
  | case1 line fresh =>
    rintro _ ⟨⟩
  | case2 line fresh c rest fault isPiece =>
    intro _ _
    have same := piece_above fresh c rest lines (.inr endsNothing)
    rw [isPiece] at same
    obtain ⟨fault, stillFault⟩ := exists_error_of_toOption same
    exact ⟨_, lexFrom_error stillFault⟩
  | case3 line fresh c rest breaks stillFresh after isPiece inductionHypothesis =>
    intro error cut
    rw [List.cons_append, lexFrom_passed (piece_above_of_ok isPiece lines)]
    exact inductionHypothesis error cut
  | case4 line fresh c rest token breaks stillFresh after isPiece inductionHypothesis =>
    intro error cut
    rw [List.cons_append, lexFrom_token (piece_above_of_ok isPiece lines)]
    cases others : lexFrom (line + breaks) stillFresh after with
    | error fault =>
      obtain ⟨error, faulty⟩ := inductionHypothesis fault others
      exact ⟨error, congrArg (Except.map _) faulty⟩
    | ok lexed =>
      rw [others] at cut
      cases cut

/-- The same some lines further down. -/
def Located.lower {α : Type} (offset : Nat) (located : Located α) : Located α :=
  { located with line := located.line + offset }

/-- The same some lines further down. -/
def Lexed.lower (offset : Nat) (lexed : Lexed) : Lexed :=
  ⟨lexed.tokens.map (Located.lower offset), lexed.lastLine + offset⟩

/-- The line that a text starts on changes nothing but the lines of what is found in it. -/
theorem lexFrom_lower (offset line : Nat) (fresh : Bool) (text : List Char) :
    lexFrom (line + offset) fresh text =
      ((lexFrom line fresh text).map (Lexed.lower offset)).mapError (Located.lower offset) := by
  fun_induction lexFrom line fresh text with
  | case1 line fresh =>
    rw [lexFrom]
    rfl
  | case2 line fresh c rest fault isPiece =>
    rw [lexFrom_error isPiece]
    rfl
  | case3 line fresh c rest breaks stillFresh after isPiece inductionHypothesis =>
    rw [lexFrom_passed isPiece, Nat.add_right_comm, inductionHypothesis]
  | case4 line fresh c rest token breaks stillFresh after isPiece inductionHypothesis =>
    rw [lexFrom_token isPiece, Nat.add_right_comm, inductionHypothesis]
    cases lexFrom (line + breaks) stillFresh after <;> rfl

end Storefront.Script
