import Mathlib
import Storefront.Proofs.Genuine
import Storefront.Proofs.Taken

/-!
A text as its stretches. What a text is cut into is written out here without the pieces: blanks,
comments, directives, and the spellings of tokens. They make up the whole text, and each of them
is what it looks like: a comment ends where its end mark first stands, a directive has a line of its
own, and a spelling is cut into its token when it stands alone. The tokens of the text are those of
its spellings, on the lines that the line breaks in front of them give.
-/

namespace Storefront.Script

open Storefront.Text Lexer

/-! ### Stretches -/

/-- A part of a text: something that is passed over, or the spelling of a token. -/
inductive Stretch where
  | blank (c : Char)
  /-- Two slashes, and what stands behind them on the line. -/
  | lineComment (body : List Char)
  /-- What stands between the marks of a comment that may span lines. -/
  | blockComment (body : List Char)
  /-- A hash sign, and what stands behind it on the line. -/
  | directive (body : List Char)
  | lexeme (spelling : List Char) (token : Token)

/-- Whether only blanks stand behind the last line break of a text, or in all of it if it has
none. -/
def StartsLine (before : List Char) : Prop :=
  ∃ above blanks, before = above ++ blanks ∧ (above = [] ∨ above.getLast? = some '\n') ∧
    ∀ c ∈ blanks, isBlank c = true

/-- Whether a text goes on with a line break, or does not go on. -/
def EndsLine (after : List Char) : Prop := ∀ c ∈ after.head?, c = '\n'

/-- Whether characters are a token from the first to the last, with nothing around it. -/
def Whole (spelling : List Char) (token : Token) : Prop :=
  ∃ c rest breaks, spelling = c :: rest ∧ tokenPiece c rest = .ok ⟨some token, breaks, false, []⟩

namespace Stretch

/-- The characters of a stretch. -/
def text : Stretch → List Char
  | blank c => [c]
  | lineComment body => '/' :: '/' :: body
  | blockComment body => '/' :: '*' :: (body ++ ['*', '/'])
  | directive body => '#' :: body
  | lexeme spelling _ => spelling

/-- The token of a spelling. -/
def token? : Stretch → Option Token
  | lexeme _ token => some token
  | _ => none

/-- Whether a stretch is well formed where it stands. -/
def Fits (before after : List Char) : Stretch → Prop
  | blank c => isBlank c = true
  | lineComment body => '\n' ∉ body ∧ EndsLine after
  | blockComment body => ¬ ['*', '/'] <:+: body
  | directive body => StartsLine before ∧ '\n' ∉ body ∧ EndsLine after
  | lexeme spelling token =>
    lex (String.ofList spelling) = .ok ⟨[⟨1, token⟩], 1 + spelling.count '\n'⟩ ∧
      Whole spelling token

end Stretch

/-- The text that stretches make up. -/
def textOf (stretches : List Stretch) : List Char := stretches.flatMap Stretch.text

/-- Whether each stretch is well formed where it stands, when a text stands before all of them. -/
def Fitting (before : List Char) : List Stretch → Prop
  | [] => True
  | stretch :: rest => stretch.Fits before (textOf rest) ∧ Fitting (before ++ stretch.text) rest

/-- The tokens of stretches that start on a line, each on the line where its spelling starts. -/
def locate (line : Nat) : List Stretch → List (Located Token)
  | [] => []
  | stretch :: rest =>
    stretch.token?.toList.map (Located.mk line) ++
      locate (line + stretch.text.count '\n') rest

/-! ### Lines -/

theorem startsLine_nil : StartsLine [] :=
  ⟨[], [], rfl, Or.inl rfl, List.forall_mem_nil _⟩

theorem startsLine_newline (before : List Char) : StartsLine (before ++ ['\n']) :=
  ⟨before ++ ['\n'], [], (List.append_nil _).symm, Or.inr List.getLast?_concat,
    List.forall_mem_nil _⟩

theorem StartsLine.blank {before : List Char} (starts : StartsLine before) {c : Char}
    (isBlank : isBlank c = true) : StartsLine (before ++ [c]) := by
  obtain ⟨above, blanks, rfl, ends, areBlank⟩ := starts
  refine ⟨above, blanks ++ [c], List.append_assoc _ _ _, ends, ?_⟩
  exact List.forall_mem_append.mpr ⟨areBlank, List.forall_mem_singleton.mpr isBlank⟩

/-- The rest of a line ends in front of a line break, and has none. -/
theorem exists_restOfLine (text : List Char) :
    ∃ body, text = body ++ restOfLine text ∧ '\n' ∉ body ∧ EndsLine (restOfLine text) := by
  refine ⟨text.takeWhile (· != '\n'), List.takeWhile_append_dropWhile.symm, fun member => ?_, ?_⟩
  · exact absurd (List.all_eq_true.mp List.all_takeWhile '\n' member) (by decide)
  · intro c first
    have stops := List.head?_dropWhile_not (· != '\n') text
    rw [show (text.dropWhile (· != '\n')).head? = some c from first] at stops
    simpa using stops

/-- A block comment ends where its end mark first stands. -/
theorem exists_comment (text : List Char) : ∀ body, commentBody text = some body →
    ∃ inside, text = inside ++ '*' :: '/' :: body.2 ∧ inside.count '\n' = body.1 ∧
      ¬ ['*', '/'] <:+: inside := by
  have still {c : Char} {rest inside behind : List Char} (same : rest = inside ++ behind)
      (noEnd : ∀ after, c = '*' → rest = '/' :: after → False) (ends : ¬ ['*', '/'] <:+: inside) :
      ¬ ['*', '/'] <:+: c :: inside := by
    rintro isInfix
    rcases List.infix_cons_iff.mp isInfix with starts | later
    · obtain ⟨star, slash⟩ := List.cons_prefix_cons.mp starts
      obtain ⟨after, rfl⟩ := slash
      exact noEnd _ star.symm same
    · exact ends later
  fun_induction commentBody text with
  | case1 => rintro _ ⟨⟩
  | case2 rest =>
    rintro _ ⟨⟩
    refine ⟨[], rfl, rfl, fun isInfix => ?_⟩
    cases List.infix_nil.mp isInfix
  | case3 c rest noEnd isBreak inductionHypothesis =>
    intro body found
    obtain ⟨inner, innerFound, rfl⟩ := Option.map_eq_some_iff.mp found
    obtain ⟨inside, same, counted, ends⟩ := inductionHypothesis inner innerFound
    refine ⟨c :: inside, congrArg (c :: ·) same, ?_, still same noEnd ends⟩
    rw [List.count_cons, counted, beq_iff_eq.mp isBreak]
    rfl
  | case4 c rest noEnd noBreak inductionHypothesis =>
    intro body found
    obtain ⟨inside, same, counted, ends⟩ := inductionHypothesis body found
    refine ⟨c :: inside, congrArg (c :: ·) same, ?_, still same noEnd ends⟩
    rw [List.count_cons, counted, if_neg noBreak]
    rfl

/-! ### Pieces as stretches -/

/-- What is found at the start of a token is a token, and what follows it is no start of a line. -/
theorem token_of_tokenPiece {c : Char} {rest : List Char} {found : Piece}
    (isPiece : tokenPiece c rest = .ok found) :
    (∃ token, found.token = some token) ∧ found.fresh = false := by
  cases tokenForm_of_tokenPiece isPiece <;> exact ⟨⟨_, rfl⟩, rfl⟩

/-- A stretch is the piece that was found at the start of a text. -/
structure Stretch.Shows (stretch : Stretch) (before text : List Char) (found : Piece) : Prop where
  whole : text = stretch.text ++ found.rest
  token : stretch.token? = found.token
  breaks : stretch.text.count '\n' = found.breaks
  fits : stretch.Fits before found.rest
  fresh : found.fresh = true → StartsLine (before ++ stretch.text) ∨ EndsLine found.rest

/-- A token is a spelling that is cut into the token when it stands alone. -/
theorem exists_lexeme {c : Char} {rest before : List Char} {found : Piece}
    (isPiece : tokenPiece c rest = .ok found) (noBreak : c ≠ '\n') (noBlank : ¬ isBlank c = true)
    (noComment : ∀ mark, mark = '/' ∨ mark = '*' → c = '/' → rest.head? ≠ some mark) :
    ∃ stretch : Stretch, stretch.Shows before (c :: rest) found := by
  obtain ⟨⟨token, isToken⟩, notFresh⟩ := token_of_tokenPiece isPiece
  obtain ⟨taken, whole, counted, always⟩ := tokenPiece_foundBy isPiece noBreak
  have alone := always [] (List.nil_prefix)
  rw [List.append_nil] at alone
  have noHash : c ≠ '#' := by
    rintro rfl
    cases isPiece
  have short : taken <+: rest := ⟨found.rest, whole.symm⟩
  have noMark (mark : Char) (isMark : mark = '/' ∨ mark = '*') :
      ¬ (c = '/' && taken.head? == some mark) = true := by
    simp only [Bool.and_eq_true, decide_eq_true_eq, beq_iff_eq, not_and]
    exact fun slash first => noComment mark isMark slash (head?_of_longer short first)
  have aloneToo : piece true c taken = .ok ⟨some token, found.breaks, found.fresh, []⟩ := by
    unfold piece
    rw [if_neg noBreak, if_neg noBlank, if_neg (by simp [noHash]), if_neg (noMark '/' (.inl rfl)),
      if_neg (noMark '*' (.inr rfl)), alone, ← isToken]
  have spelled : (c :: taken).count '\n' = found.breaks := by
    rw [List.count_cons_of_ne noBreak, counted]
  refine ⟨.lexeme (c :: taken) token, congrArg (c :: ·) whole, isToken.symm, spelled,
    ⟨?_, c, taken, found.breaks, rfl, ?_⟩, ?_⟩
  · show lex (String.ofList (c :: taken)) = _
    rw [lex, String.toList_ofList, lexFrom_token aloneToo, lexFrom, spelled]
    rfl
  · rw [alone, isToken, notFresh]
  · rw [notFresh]
    rintro ⟨⟩

/-- Every piece is a stretch that is well formed where it stands. -/
theorem exists_stretch {fresh : Bool} {c : Char} {rest before : List Char} {found : Piece}
    (isPiece : piece fresh c rest = .ok found)
    (atStart : fresh = true → StartsLine before ∨ EndsLine (c :: rest)) :
    ∃ stretch : Stretch, stretch.Shows before (c :: rest) found := by
  unfold piece at isPiece
  by_cases isBreak : c = '\n'
  · rw [if_pos isBreak] at isPiece
    obtain rfl := Except.ok.inj isPiece
    subst isBreak
    exact ⟨.blank '\n', rfl, rfl, rfl, isBlank_newline, fun _ => .inl (startsLine_newline before)⟩
  rw [if_neg isBreak] at isPiece
  -- A line cannot be at its end where a character other than a line break comes next.
  have starts (isFresh : fresh = true) : StartsLine before :=
    (atStart isFresh).resolve_right fun ends => isBreak (ends c rfl)
  by_cases blank : isBlank c = true
  · rw [if_pos blank] at isPiece
    obtain rfl := Except.ok.inj isPiece
    refine ⟨.blank c, rfl, rfl, ?_, blank, fun isFresh => .inl ((starts isFresh).blank blank)⟩
    exact List.count_eq_zero.mpr fun member => isBreak (List.mem_singleton.mp member).symm
  rw [if_neg blank] at isPiece
  by_cases directive : (c = '#' && fresh) = true
  · rw [if_pos directive] at isPiece
    obtain rfl := Except.ok.inj isPiece
    obtain ⟨hash, isFresh⟩ := Bool.and_eq_true_iff.mp directive
    obtain rfl := of_decide_eq_true hash
    obtain ⟨body, whole, noBreak, ends⟩ := exists_restOfLine rest
    refine ⟨.directive body, congrArg ('#' :: ·) whole, rfl, ?_,
      ⟨starts isFresh, noBreak, ends⟩, fun _ => .inr ends⟩
    exact List.count_eq_zero.mpr (List.not_mem_cons_of_ne_of_not_mem (by decide) noBreak)
  rw [if_neg directive] at isPiece
  by_cases lineComment : (c = '/' && rest.head? == some '/') = true
  · rw [if_pos lineComment] at isPiece
    obtain rfl := Except.ok.inj isPiece
    obtain ⟨slash, first⟩ := Bool.and_eq_true_iff.mp lineComment
    obtain rfl := of_decide_eq_true slash
    obtain ⟨text, rfl⟩ := List.head?_eq_some_iff.mp (beq_iff_eq.mp first)
    have skipped : restOfLine ('/' :: text) = restOfLine text :=
      List.dropWhile_cons_of_pos (by decide)
    obtain ⟨body, whole, noBreak, ends⟩ := exists_restOfLine text
    rw [skipped]
    refine ⟨.lineComment body, congrArg ('/' :: '/' :: ·) whole, rfl, ?_, ⟨noBreak, ends⟩,
      by rintro ⟨⟩⟩
    refine List.count_eq_zero.mpr (List.not_mem_cons_of_ne_of_not_mem (by decide) ?_)
    exact List.not_mem_cons_of_ne_of_not_mem (by decide) noBreak
  rw [if_neg lineComment] at isPiece
  by_cases blockComment : (c = '/' && rest.head? == some '*') = true
  · rw [if_pos blockComment] at isPiece
    obtain ⟨slash, first⟩ := Bool.and_eq_true_iff.mp blockComment
    obtain rfl := of_decide_eq_true slash
    obtain ⟨text, rfl⟩ := List.head?_eq_some_iff.mp (beq_iff_eq.mp first)
    split at isPiece
    · next body isBody =>
      obtain rfl := Except.ok.inj isPiece
      obtain ⟨inside, whole, counted, ends⟩ := exists_comment text body isBody
      refine ⟨.blockComment inside, ?_, rfl, ?_, ends, by rintro ⟨⟩⟩
      · rw [whole]
        simp [Stretch.text]
      · simp [Stretch.text, counted]
    · cases isPiece
  rw [if_neg blockComment] at isPiece
  refine exists_lexeme isPiece isBreak blank ?_
  rintro mark (rfl | rfl) rfl first
  · exact lineComment (by rw [first]; rfl)
  · exact blockComment (by rw [first]; rfl)

/-! ### Whole texts -/

/-- A stretch in front of others, with what the piece that it is adds to theirs. -/
theorem Stretch.Shows.cons {stretch : Stretch} {before text : List Char} {found : Piece}
    {stretches : List Stretch} (shows : stretch.Shows before text found)
    (same : textOf stretches = found.rest) (fitting : Fitting (before ++ stretch.text) stretches)
    (line : Nat) :
    textOf (stretch :: stretches) = text ∧ Fitting before (stretch :: stretches) ∧
      locate line (stretch :: stretches) =
        found.token.toList.map (Located.mk line) ++ locate (line + found.breaks) stretches ∧
      line + text.count '\n' = line + found.breaks + found.rest.count '\n' := by
  refine ⟨?_, ⟨same ▸ shows.fits, fitting⟩, ?_, ?_⟩
  · rw [shows.whole, ← same]
    rfl
  · rw [locate, shows.token, shows.breaks]
  · rw [shows.whole, List.count_append, shows.breaks, Nat.add_assoc]

/-- A text that can be cut is made of stretches, each well formed where it stands, and its tokens
are theirs. The induction is on the cuts; what it carries along is that a directive can only follow
where a line starts. -/
theorem lexFrom_stretches (line : Nat) (fresh : Bool) (text : List Char) :
    ∀ lexed, lexFrom line fresh text = .ok lexed →
      ∀ before, (fresh = true → StartsLine before ∨ EndsLine text) →
        ∃ stretches, textOf stretches = text ∧ Fitting before stretches ∧
          lexed = ⟨locate line stretches, line + text.count '\n'⟩ := by
  fun_induction lexFrom line fresh text with
  | case1 line fresh =>
    rintro _ ⟨⟩ before -
    exact ⟨[], rfl, trivial, rfl⟩
  | case2 line fresh c rest fault isPiece =>
    rintro _ ⟨⟩
  | case3 line fresh c rest breaks stillFresh after isPiece inductionHypothesis =>
    intro lexed cut before atStart
    obtain ⟨stretch, shows⟩ := exists_stretch isPiece atStart
    obtain ⟨stretches, same, fitting, rfl⟩ :=
      inductionHypothesis lexed cut (before ++ stretch.text) shows.fresh
    obtain ⟨whole, fits, located, counted⟩ := shows.cons same fitting line
    refine ⟨stretch :: stretches, whole, fits, ?_⟩
    rw [located, counted]
    rfl
  | case4 line fresh c rest token breaks stillFresh after isPiece inductionHypothesis =>
    intro lexed cut before atStart
    obtain ⟨others, cutOthers, rfl⟩ := eq_ok_of_map_eq_ok cut
    obtain ⟨stretch, shows⟩ := exists_stretch isPiece atStart
    obtain ⟨stretches, same, fitting, rfl⟩ :=
      inductionHypothesis others cutOthers (before ++ stretch.text) shows.fresh
    obtain ⟨whole, fits, located, counted⟩ := shows.cons same fitting line
    refine ⟨stretch :: stretches, whole, fits, ?_⟩
    rw [located, counted]
    rfl

/-- The stretches of a whole text. -/
theorem exists_stretches {text : String} {lexed : Lexed} (cut : lex text = .ok lexed) :
    ∃ stretches, textOf stretches = text.toList ∧ Fitting [] stretches ∧
      lexed = ⟨locate 1 stretches, 1 + text.toList.count '\n'⟩ :=
  lexFrom_stretches 1 true text.toList lexed cut [] fun _ => .inl startsLine_nil

end Storefront.Script
