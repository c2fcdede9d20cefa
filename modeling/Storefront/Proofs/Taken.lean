import Storefront.Proofs.Lines
import Storefront.Proofs.Spelling

/-!
What a token is found by. A token takes characters from the front of a text, and these alone decide
what it is: it stays the same when the text behind them is cut short anywhere. What stands behind a
token only tells where it ends. So each token can be looked at apart from the rest of the text.

The scans for the parts of a token have this property, and it passes from one part after another to
the whole. The line breaks among the characters are counted along, since a token may have some.
-/

namespace Storefront.Script.Lexer

open Storefront.Text

/-! ### Finding by what is taken -/

/-- Something is found at the start of a text, with `rest` behind it, by characters with that many
line breaks among them. It is found by them too when only some of the rest stands behind them. -/
def FoundBy (finds : List Char → List Char → Prop) (breaks : Nat) (text rest : List Char) : Prop :=
  ∃ taken, text = taken ++ rest ∧ taken.count '\n' = breaks ∧
    ∀ shorter, shorter <+: rest → finds (taken ++ shorter) shorter

section

variable {finds one : List Char → List Char → Prop} {breaks more : Nat}
  {text middle rest : List Char}

/-- Nothing is taken where no part of the text starts with what is looked for. -/
theorem FoundBy.nothing (never : ∀ shorter, shorter <+: text → finds shorter shorter) :
    FoundBy finds 0 text text :=
  ⟨[], rfl, rfl, never⟩

/-- Taking nothing leaves a text as it is. -/
theorem foundBy_nothing (text : List Char) :
    FoundBy (fun short left => short = left) 0 text text := .nothing fun _ _ => rfl

/-- What is found in each short text is found by the same characters. -/
theorem FoundBy.imp (found : FoundBy one breaks text rest)
    (implies : ∀ short left, short <+: text → one short left → finds short left) :
    FoundBy finds breaks text rest := by
  obtain ⟨taken, rfl, counted, always⟩ := found
  refine ⟨taken, rfl, counted, fun shorter isPrefix => ?_⟩
  have within := (List.prefix_append_right_inj taken).mpr isPrefix
  exact implies _ _ within (always shorter isPrefix)

/-- One part and then another are found by what both take. -/
theorem FoundBy.andThen (first : FoundBy one breaks text middle)
    (second : FoundBy (fun between left => ∀ short, one short between → finds short left) more
      middle rest) :
    FoundBy finds (breaks + more) text rest := by
  obtain ⟨taken, rfl, counted, always⟩ := first
  obtain ⟨takenToo, rfl, countedToo, alwaysToo⟩ := second
  refine ⟨taken ++ takenToo, (List.append_assoc _ _ _).symm, ?_, fun shorter isPrefix => ?_⟩
  · rw [List.count_append, counted, countedToo]
  · have within := (List.prefix_append_right_inj takenToo).mpr isPrefix
    rw [List.append_assoc]
    exact alwaysToo shorter isPrefix _ (always _ within)

/-- A character and then what is found behind it. -/
theorem FoundBy.cons {c : Char} (found : FoundBy one breaks text rest)
    (implies : ∀ short left, short <+: text → one short left → finds (c :: short) left) :
    FoundBy finds (breaks + if c = '\n' then 1 else 0) (c :: text) rest := by
  obtain ⟨taken, rfl, counted, always⟩ := found
  refine ⟨c :: taken, rfl, ?_, fun shorter isPrefix => ?_⟩
  · rw [List.count_cons, counted]
    simp only [beq_iff_eq]
  · have within := (List.prefix_append_right_inj taken).mpr isPrefix
    exact implies _ _ within (always shorter isPrefix)

/-- A character that is no line break, and then what is found behind it. -/
theorem FoundBy.inLine {c : Char} (found : FoundBy one breaks text rest) (noBreak : c ≠ '\n')
    (implies : ∀ short left, short <+: text → one short left → finds (c :: short) left) :
    FoundBy finds breaks (c :: text) rest := by
  have whole := found.cons implies
  rwa [if_neg noBreak] at whole

/-- What takes the first character, which is no line break, takes the others from behind it. -/
theorem FoundBy.tail {c : Char} (found : FoundBy finds breaks (c :: text) rest)
    (noBreak : c ≠ '\n') (fewer : rest.length ≤ text.length) :
    FoundBy (fun short left => finds (c :: short) left) breaks text rest := by
  obtain ⟨taken, whole, counted, always⟩ := found
  cases taken with
  | nil =>
    rw [List.nil_append] at whole
    subst whole
    exact absurd fewer (Nat.not_succ_le_self _)
  | cons first taken =>
    obtain ⟨rfl, rfl⟩ := List.cons.inj whole
    refine ⟨taken, rfl, ?_, always⟩
    rw [← counted, List.count_cons_of_ne noBreak]

/-- What is left is left at the end. -/
theorem FoundBy.atEnd (found : FoundBy finds breaks text rest) :
    FoundBy (fun short left => finds short left ∧ left <:+ short) breaks text rest := by
  obtain ⟨taken, rfl, counted, always⟩ := found
  exact ⟨taken, rfl, counted, fun shorter within =>
    ⟨always shorter within, List.suffix_append taken shorter⟩⟩

end

/-- The first character of a short text is that of the whole one. -/
theorem head?_of_longer {short text : List Char} (within : short <+: text) {c : Char}
    (first : c ∈ short.head?) : c ∈ text.head? := by
  obtain ⟨behind, rfl⟩ := within
  cases short with
  | nil => cases first
  | cons => exact first

/-! ### Runs of characters -/

/-- The run of characters at the start of a text is found by itself. -/
theorem run_foundBy (keep : Char → Bool) (stops : keep '\n' = false) (text : List Char) :
    FoundBy (fun short left => short.takeWhile keep = text.takeWhile keep ∧
      short.dropWhile keep = left) 0 text (text.dropWhile keep) := by
  have kept : ∀ c ∈ text.takeWhile keep, keep c = true := fun c =>
    List.all_eq_true.mp List.all_takeWhile c
  refine ⟨text.takeWhile keep, List.takeWhile_append_dropWhile.symm, ?_, fun shorter within => ?_⟩
  · refine List.count_eq_zero.mpr fun member => ?_
    exact absurd (kept '\n' member) (Bool.eq_false_iff.mp stops)
  · refine scan_append keep kept fun c first => ?_
    have ends := List.head?_dropWhile_not keep text
    rw [Option.mem_def.mp (head?_of_longer within first)] at ends
    simpa using ends

/-- A run at the start of a text is there when more of the text follows. -/
theorem starts_append {keep : Char → Bool} {text : List Char} (behind : List Char)
    (starts : (!(text.takeWhile keep).isEmpty) = true) :
    (!((text ++ behind).takeWhile keep).isEmpty) = true := by
  cases text with
  | nil => cases starts
  | cons c text =>
    cases kept : keep c with
    | false =>
      rw [List.takeWhile_cons_of_neg (Bool.eq_false_iff.mp kept)] at starts
      cases starts
    | true =>
      rw [List.cons_append, List.takeWhile_cons_of_pos kept]
      rfl

/-! ### Numbers -/

theorem hexNumber_foundBy {text : List Char} {found : Found}
    (isNumber : hexNumber text = .ok found) :
    FoundBy (fun short left => hexNumber short = .ok (found.1, left)) 0 text found.2 := by
  unfold hexNumber at isNumber
  dsimp only at isNumber
  split at isNumber
  · cases isNumber
  · next valid =>
    obtain rfl := Except.ok.inj isNumber
    refine (run_foundBy isHexDigitOrGap rfl text).andThen ((run_foundBy isIntSuffix rfl _).imp ?_)
    rintro between left - ⟨-, rfl⟩ short ⟨digits, rfl⟩
    unfold hexNumber
    dsimp only
    rw [digits, if_neg valid]

/-- A scan for a part that may be missing goes by what it takes: a part is found by its own
characters, and one that is missing is missing in a shorter text too. -/
structure Settled {Part : Type} (scan : List Char → Option (Part × List Char)) : Prop where
  found : ∀ text part rest, scan text = some (part, rest) →
    FoundBy (fun short left => scan short = some (part, left)) 0 text rest
  missing : ∀ text short, short <+: text → (scan short).isSome → (scan text).isSome

theorem optionalPart_foundBy {Part : Type} {scan : List Char → Option (Part × List Char)}
    (settled : Settled scan) (text : List Char) :
    FoundBy (fun short left => optionalPart scan short = ((optionalPart scan text).1, left)) 0
      text (optionalPart scan text).2 := by
  cases scanned : scan text with
  | some result =>
    have whole : optionalPart scan text = (some result.1, result.2) := by
      rw [optionalPart, scanned]
    rw [whole]
    refine (settled.found text _ _ scanned).imp fun short left _ found => ?_
    rw [optionalPart, found]
  | none =>
    have whole : optionalPart scan text = (none, text) := by rw [optionalPart, scanned]
    rw [whole]
    refine .nothing fun shorter within => ?_
    cases early : scan shorter with
    | none => rw [optionalPart, early]
    | some result =>
      have late := settled.missing text shorter within (Option.isSome_of_eq_some early)
      rw [scanned] at late
      cases late

theorem settled_fraction : Settled fraction where
  found text part rest scanned := by
    unfold fraction at scanned
    split at scanned
    · next digit others =>
      split at scanned
      · next isDigit =>
        obtain ⟨rfl, rfl⟩ := Prod.mk.inj (Option.some.inj scanned)
        have kept : isDigitOrGap digit = true := by rw [isDigitOrGap, isDigit, Bool.true_or]
        have noBreak : digit ≠ '\n' := by
          rintro rfl
          cases isDigit
        have run := (run_foundBy isDigitOrGap rfl (digit :: others)).tail noBreak
          (Nat.le_of_lt_succ (length_dropWhile_cons_lt others kept))
        have afterPoint : FoundBy (fun short left => fraction ('.' :: short) =
            some ((digit :: others).takeWhile isDigitOrGap, left)) 0 (digit :: others)
            ((digit :: others).dropWhile isDigitOrGap) := by
          refine run.inLine noBreak fun short left _ found => ?_
          rw [fraction, if_pos isDigit, found.1, found.2]
        exact afterPoint.inLine (by decide) fun _ _ _ found => found
      · cases scanned
    · cases scanned
  missing text short within isSome := by
    obtain ⟨behind, rfl⟩ := within
    unfold fraction at isSome
    split at isSome
    · next digit others =>
      split at isSome
      · next isDigit =>
        rw [List.cons_append, List.cons_append, fraction, if_pos isDigit]
        rfl
      · cases isSome
    · cases isSome

/-- The sign of an exponent is found in every text that has a character behind the mark. -/
theorem exponentSign_append {rest : List Char} (some : rest ≠ []) (behind : List Char) :
    exponentSign (rest ++ behind) = ((exponentSign rest).1, (exponentSign rest).2 ++ behind) := by
  cases rest with
  | nil => exact absurd rfl some
  | cons c rest =>
    by_cases plus : c = '+'
    · subst plus
      rfl
    · by_cases minus : c = '-'
      · subst minus
        rfl
      · simp [exponentSign, plus, minus]

theorem exponentSign_foundBy (rest : List Char) :
    FoundBy (fun short left => exponentSign short = ((exponentSign rest).1, left)) 0 rest
      (exponentSign rest).2 := by
  cases rest with
  | nil =>
    refine .nothing fun shorter within => ?_
    rw [List.prefix_nil.mp within]
    rfl
  | cons c rest =>
    by_cases plus : c = '+'
    · subst plus
      exact (foundBy_nothing rest).inLine (by decide) fun short left _ same => same ▸ rfl
    · by_cases minus : c = '-'
      · subst minus
        exact (foundBy_nothing rest).inLine (by decide) fun short left _ same => same ▸ rfl
      · have unsigned : exponentSign (c :: rest) = (false, c :: rest) := by
          simp [exponentSign, plus, minus]
        rw [unsigned]
        refine .nothing fun shorter within => ?_
        cases shorter with
        | nil => rfl
        | cons first shorter =>
          obtain rfl := (List.cons_prefix_cons.mp within).1
          simp [exponentSign, plus, minus]

theorem settled_exponent : Settled exponent where
  found text part rest scanned := by
    unfold exponent at scanned
    split at scanned
    · next mark behind =>
      dsimp only at scanned
      split at scanned
      · next valid =>
        obtain ⟨rfl, rfl⟩ := Prod.mk.inj (Option.some.inj scanned)
        have noBreak : mark ≠ '\n' := by
          rintro rfl
          cases (Bool.and_eq_true_iff.mp valid).1
        have digits := run_foundBy Char.isDigit rfl (exponentSign behind).2
        refine FoundBy.inLine ((exponentSign_foundBy behind).andThen (digits.imp ?_)) noBreak
          fun short left _ found => found
        rintro between left - ⟨run, rfl⟩ short sign
        unfold exponent
        dsimp only
        rw [sign]
        dsimp only
        rw [run, if_pos valid]
      · cases scanned
    · cases scanned
  missing text short within isSome := by
    obtain ⟨behind, rfl⟩ := within
    unfold exponent at isSome
    split at isSome
    · next mark rest =>
      dsimp only at isSome
      split at isSome
      · next valid =>
        obtain ⟨isMark, digits⟩ := Bool.and_eq_true_iff.mp valid
        have some : rest ≠ [] := by
          rintro rfl
          cases digits
        have valid : ((mark == 'e' || mark == 'E') && !(((exponentSign rest).2 ++ behind).takeWhile
            Char.isDigit).isEmpty) = true :=
          Bool.and_eq_true_iff.mpr ⟨isMark, starts_append behind digits⟩
        rw [List.cons_append, exponent, exponentSign_append some]
        dsimp only
        rw [if_pos valid]
        rfl
      · cases isSome
    · cases isSome

theorem settled_realSuffix : Settled realSuffix where
  found text part rest scanned := by
    unfold realSuffix at scanned
    split at scanned
    · next mark behind =>
      split at scanned
      · next isSuffix =>
        obtain ⟨rfl, rfl⟩ := Prod.mk.inj (Option.some.inj scanned)
        have noBreak : mark ≠ '\n' := by
          rintro rfl
          cases isSuffix
        refine (foundBy_nothing behind).inLine noBreak fun short left _ same => ?_
        rw [realSuffix, if_pos isSuffix, same]
      · cases scanned
    · cases scanned
  missing text short within isSome := by
    obtain ⟨behind, rfl⟩ := within
    unfold realSuffix at isSome
    split at isSome
    · next mark rest =>
      split at isSome
      · next isSuffix =>
        rw [List.cons_append, realSuffix, if_pos isSuffix]
        rfl
      · cases isSome
    · cases isSome

theorem decimalNumber_foundBy {text : List Char} {found : Found}
    (isNumber : decimalNumber text = .ok found) :
    FoundBy (fun short left => decimalNumber short = .ok (found.1, left)) 0 text found.2 := by
  have digits := run_foundBy isDigitOrGap rfl text
  have places := optionalPart_foundBy settled_fraction (text.dropWhile isDigitOrGap)
  have power := optionalPart_foundBy settled_exponent
    (optionalPart fraction (text.dropWhile isDigitOrGap)).2
  have suffix := optionalPart_foundBy settled_realSuffix
    (optionalPart exponent (optionalPart fraction (text.dropWhile isDigitOrGap)).2).2
  unfold decimalNumber at isNumber
  dsimp only at isNumber
  split at isNumber
  · next isReal =>
    obtain rfl := Except.ok.inj isNumber
    refine digits.andThen (places.andThen (power.andThen (suffix.imp ?_)))
    rintro atSuffix left - isSuffix atPower isPower atPlaces isPlaces short ⟨whole, rfl⟩
    unfold decimalNumber
    rw [whole, isPlaces]
    dsimp only
    rw [isPower]
    dsimp only
    rw [isSuffix]
    dsimp only
    rw [if_pos isReal]
  · next isWhole =>
    split at isNumber
    · cases isNumber
    · next small =>
      obtain rfl := Except.ok.inj isNumber
      have letters := run_foundBy isIntSuffix rfl (optionalPart realSuffix
        (optionalPart exponent (optionalPart fraction (text.dropWhile isDigitOrGap)).2).2).2
      refine digits.andThen (places.andThen (power.andThen (suffix.andThen (letters.imp ?_))))
      rintro atLetters left - ⟨-, rfl⟩ atSuffix isSuffix atPower isPower atPlaces isPlaces short
        ⟨whole, rfl⟩
      unfold decimalNumber
      rw [whole, isPlaces]
      dsimp only
      rw [isPower]
      dsimp only
      rw [isSuffix]
      dsimp only
      rw [if_neg isWhole, if_neg small]

/-- A number is found by its own characters. -/
theorem number_foundBy {text : List Char} {found : Found} (isNumber : number text = .ok found) :
    FoundBy (fun short left => number short = .ok (found.1, left)) 0 text found.2 := by
  unfold number at isNumber
  split at isNumber
  · next rest =>
    have afterZero : FoundBy (fun short left => number ('0' :: short) = .ok (found.1, left)) 0
        ('x' :: rest) found.2 :=
      (hexNumber_foundBy isNumber).inLine (by decide) fun short left _ isHex => isHex
    exact afterZero.inLine (by decide) fun short left _ isHex => isHex
  · next rest =>
    have afterZero : FoundBy (fun short left => number ('0' :: short) = .ok (found.1, left)) 0
        ('X' :: rest) found.2 :=
      (hexNumber_foundBy isNumber).inLine (by decide) fun short left _ isHex => isHex
    exact afterZero.inLine (by decide) fun short left _ isHex => isHex
  · next noLower noUpper =>
    refine (decimalNumber_foundBy isNumber).imp fun short left within isDecimal => ?_
    obtain ⟨behind, rfl⟩ := within
    rw [number.eq_3 short (fun rest same => noLower (rest ++ behind) (same ▸ rfl))
      (fun rest same => noUpper (rest ++ behind) (same ▸ rfl))]
    exact isDecimal

/-- Where a short text starts with a number, the whole one does. -/
theorem startsNumber_of_longer {short text : List Char} (within : short <+: text)
    (starts : startsNumber short = true) : startsNumber text = true := by
  obtain ⟨behind, rfl⟩ := within
  match short, starts with
  | [c], starts =>
    have noPoint : c ≠ '.' := by
      rintro rfl
      cases starts
    unfold startsNumber at starts
    simpa [startsNumber, noPoint] using starts
  | c :: next :: rest, starts =>
    by_cases point : c = '.'
    · subst point
      exact starts
    · simpa [startsNumber, point] using starts

/-! ### Quotations -/

/-- The character that names an escape is no line break. -/
theorem ne_newline_of_escapeMeaning? {c meaning : Char} (means : escapeMeaning? c = some meaning) :
    c ≠ '\n' := by
  rintro rfl
  cases means

theorem stringBody_foundBy (text : List Char) : ∀ body, stringBody text = .ok body →
    FoundBy (fun short left => stringBody short = .ok (body.1, left)) 0 text body.2 := by
  fun_induction stringBody text with
  | case1 | case3 | case4 | case5 => rintro _ ⟨⟩
  | case2 rest =>
    rintro _ ⟨⟩
    exact (foundBy_nothing rest).inLine (by decide) fun short left _ same => same ▸ rfl
  | case6 c rest meaning isMeaning inductionHypothesis =>
    intro body found
    obtain ⟨inner, innerFound, rfl⟩ := eq_ok_of_map_eq_ok found
    have afterBackslash : FoundBy (fun short left => stringBody ('\\' :: short) =
        .ok (meaning :: inner.1, left)) 0 (c :: rest) inner.2 := by
      refine (inductionHypothesis inner innerFound).inLine (ne_newline_of_escapeMeaning? isMeaning)
        fun short left _ isBody => ?_
      rw [stringBody, isMeaning]
      dsimp only
      rw [isBody]
      rfl
    exact afterBackslash.inLine (by decide) fun short left _ isBody => isBody
  | case7 c rest noMark noBreak noLast noEscape inductionHypothesis =>
    intro body found
    obtain ⟨inner, innerFound, rfl⟩ := eq_ok_of_map_eq_ok found
    have noBackslash : c ≠ '\\' := by
      rintro rfl
      cases rest with
      | nil => exact noLast rfl rfl
      | cons escape rest => exact noEscape escape rest rfl rfl
    refine (inductionHypothesis inner innerFound).inLine noBreak fun short left _ isBody => ?_
    rw [stringBody.eq_6 c _ noMark noBreak (fun same => absurd same noBackslash)
      (fun _ _ same => absurd same noBackslash), isBody]
    rfl

theorem literalCharacter_foundBy {text rest : List Char} {c : Char}
    (literal : literalCharacter text = .ok (c, rest)) :
    FoundBy (fun short left => literalCharacter short = .ok (c, left)) 0 text rest := by
  unfold literalCharacter at literal
  split at literal
  · next escaped =>
    unfold escape at literal
    split at literal
    · cases literal
    · next name behind =>
      split at literal
      · next meaning isMeaning =>
        obtain ⟨rfl, rfl⟩ := Prod.mk.inj (Except.ok.inj literal)
        have afterBackslash : FoundBy (fun short left => literalCharacter ('\\' :: short) =
            .ok (meaning, left)) 0 (name :: behind) behind := by
          refine (foundBy_nothing behind).inLine (ne_newline_of_escapeMeaning? isMeaning)
            fun short left _ same => ?_
          rw [literalCharacter, escape, isMeaning, same]
        exact afterBackslash.inLine (by decide) fun short left _ isLiteral => isLiteral
      · cases literal
  · next first behind noBackslash =>
    split at literal
    · cases literal
    · next plain =>
      obtain ⟨rfl, rfl⟩ := Prod.mk.inj (Except.ok.inj literal)
      have noBreak : first ≠ '\n' := by
        rintro rfl
        exact plain rfl
      refine (foundBy_nothing behind).inLine noBreak fun short left _ same => ?_
      rw [literalCharacter.eq_2 first _ noBackslash, if_neg plain, same]
  · cases literal

theorem characterLiteral_foundBy {text : List Char} {found : Found}
    (isLiteral : characterLiteral text = .ok found) :
    FoundBy (fun short left => characterLiteral short = .ok (found.1, left)) 0 text found.2 := by
  unfold characterLiteral at isLiteral
  split at isLiteral
  · cases isLiteral
  · next c rest literal =>
    obtain rfl := Except.ok.inj isLiteral
    refine (literalCharacter_foundBy literal).andThen ((foundBy_nothing rest).inLine (by decide) ?_)
    rintro between left - rfl short isLiteral
    rw [characterLiteral, isLiteral]
    rfl
  · cases isLiteral

/-- A verbatim string has the line breaks of its content. -/
theorem verbatimBody_foundBy (text : List Char) : ∀ body, verbatimBody text = some body →
    FoundBy (fun short left => verbatimBody short = some (body.1, left)) (body.1.count '\n') text
      body.2 := by
  fun_induction verbatimBody text with
  | case1 => rintro _ ⟨⟩
  | case2 rest inductionHypothesis =>
    intro body found
    obtain ⟨inner, innerFound, rfl⟩ := Option.map_eq_some_iff.mp found
    have noBreak : '"' ≠ '\n' := by decide
    have afterMark : FoundBy (fun short left => verbatimBody ('"' :: short) =
        some ('"' :: inner.1, left)) (inner.1.count '\n') ('"' :: rest) inner.2 := by
      refine (inductionHypothesis inner innerFound).inLine noBreak fun short left _ isBody => ?_
      rw [verbatimBody, isBody]
      rfl
    dsimp only
    rw [List.count_cons_of_ne noBreak]
    exact afterMark.inLine noBreak fun short left _ isBody => isBody
  | case3 rest notDoubled =>
    rintro _ ⟨⟩
    refine (foundBy_nothing rest).inLine (by decide) fun short left within same => ?_
    rw [verbatimBody.eq_3, same]
    rintro after rfl
    obtain ⟨behind, rfl⟩ := within
    exact notDoubled _ rfl
  | case4 c rest noPair noMark inductionHypothesis =>
    intro body found
    obtain ⟨inner, innerFound, rfl⟩ := Option.map_eq_some_iff.mp found
    dsimp only
    rw [List.count_cons]
    simp only [beq_iff_eq]
    refine (inductionHypothesis inner innerFound).cons fun short left _ isBody => ?_
    rw [verbatimBody.eq_4 c _ (fun _ mark => absurd mark noMark) noMark, isBody]
    rfl

/-! ### Operators and punctuation -/

theorem afterSpelling?_eq_some_iff {spelling text rest : List Char} :
    afterSpelling? spelling text = some rest ↔ text = spelling ++ rest := by
  fun_induction afterSpelling? spelling text with
  | case1 text => exact Option.some_inj
  | case2 expected spelling => refine iff_of_false ?_ ?_ <;> rintro ⟨⟩
  | case3 expected spelling c text same inductionHypothesis =>
    obtain rfl := beq_iff_eq.mp same
    rw [inductionHypothesis, List.cons_append, List.cons.injEq, and_iff_right rfl]
  | case4 expected spelling c text other =>
    refine iff_of_false (by rintro ⟨⟩) fun same => other ?_
    exact beq_iff_eq.mpr (List.cons.inj same).1.symm

/-- The first spelling that fits a text is the first one that fits its own characters. -/
theorem fixedToken?_foundBy {text : List Char} {found : Found}
    (fixed : fixedToken? text = some found) :
    FoundBy (fun short left => fixedToken? short = some (found.1, left)) 0 text found.2 := by
  obtain ⟨earlier, entry, later, listed, spelled, absent⟩ := List.findSome?_eq_some_iff.mp fixed
  obtain ⟨rest, isRest, rfl⟩ := Option.map_eq_some_iff.mp spelled
  obtain rfl := afterSpelling?_eq_some_iff.mp isRest
  have member : entry ∈ fixedTokens := listed ▸ List.mem_append_cons_self
  refine ⟨entry.1, rfl, List.count_eq_zero.mpr (fixedTokens_single entry member), ?_⟩
  intro shorter within
  refine List.findSome?_eq_some_iff.mpr ⟨earlier, entry, later, listed, ?_, fun other before => ?_⟩
  · rw [afterSpelling?_eq_some_iff.mpr rfl]
    rfl
  · -- A spelling that fits the short text fits the whole one.
    cases early : afterSpelling? other.1 (entry.1 ++ shorter) with
    | none => rfl
    | some left =>
      obtain ⟨behind, rfl⟩ := within
      have late : afterSpelling? other.1 (entry.1 ++ (shorter ++ behind)) =
          some (left ++ behind) := by
        rw [afterSpelling?_eq_some_iff] at early ⊢
        rw [← List.append_assoc, early, List.append_assoc]
      have unfit := absent other before
      rw [late] at unfit
      cases unfit

/-! ### Pieces -/

/-- What is read as a number, and is more than a point, starts like one. -/
theorem startsNumber_of_number {c : Char} {short rest left : List Char} {token : Token}
    (within : short <+: rest) (starts : startsNumber (c :: rest) = true)
    (isNumber : number (c :: short) = .ok (token, left)) (behind : left <:+ short) :
    startsNumber (c :: short) = true := by
  obtain ⟨after, rfl⟩ := within
  by_cases point : c = '.'
  · subst point
    cases short with
    | nil =>
      have alone : number ['.'] = .ok (.int 0, ['.']) := rfl
      rw [alone] at isNumber
      obtain ⟨rfl, rfl⟩ := Prod.mk.inj (Except.ok.inj isNumber)
      cases List.suffix_nil.mp behind
    | cons next short => exact starts
  · simpa [startsNumber, point] using starts

theorem tokenPiece_at_foundBy {rest : List Char} {found : Piece}
    (isPiece : tokenPiece '@' rest = .ok found) :
    FoundBy (fun short left => tokenPiece '@' short = .ok { found with rest := left }) found.breaks
      rest found.rest := by
  by_cases isMark : rest.head? = some '"'
  · obtain ⟨text, rfl⟩ := List.head?_eq_some_iff.mp isMark
    rw [tokenPiece_verbatim] at isPiece
    split at isPiece
    · next body isBody =>
      obtain rfl := Except.ok.inj isPiece
      refine (verbatimBody_foundBy text body isBody).inLine (by decide)
        fun short left _ isBody => ?_
      rw [tokenPiece_verbatim, isBody]
    · cases isPiece
  · rw [tokenPiece_atWord isMark] at isPiece
    obtain rfl := Except.ok.inj isPiece
    refine (run_foundBy continuesWord (by decide) rest).imp fun short left within run => ?_
    have noMark : short.head? ≠ some '"' := fun first => isMark (head?_of_longer within first)
    rw [tokenPiece_atWord noMark, run.1, run.2]
    rfl

/-- A token is found by its own characters, with its own line breaks. -/
theorem tokenPiece_foundBy {c : Char} {rest : List Char} {found : Piece}
    (isPiece : tokenPiece c rest = .ok found) (noBreak : c ≠ '\n') :
    FoundBy (fun short left => tokenPiece c short = .ok { found with rest := left }) found.breaks
      rest found.rest := by
  by_cases isAt : c = '@'
  · subst isAt
    exact tokenPiece_at_foundBy isPiece
  unfold tokenPiece at isPiece
  by_cases isNumber : startsNumber (c :: rest) = true
  · rw [if_pos isNumber] at isPiece
    obtain ⟨result, reads, rfl⟩ := eq_ok_of_map_eq_ok isPiece
    have fewer := Nat.le_of_lt_succ (number_length isNumber reads)
    refine ((number_foundBy reads).tail noBreak fewer).atEnd.imp fun short left within reads => ?_
    unfold tokenPiece
    rw [if_pos (startsNumber_of_number within isNumber reads.1 reads.2), reads.1]
    rfl
  have noNumber : ∀ short, short <+: rest → ¬ startsNumber (c :: short) = true :=
    fun short within starts =>
      isNumber (startsNumber_of_longer (List.cons_prefix_cons.mpr ⟨rfl, within⟩) starts)
  rw [if_neg isNumber] at isPiece
  by_cases isWord : startsWord c = true
  · rw [if_pos isWord] at isPiece
    obtain rfl := Except.ok.inj isPiece
    have fewer := Nat.le_of_lt_succ
      (length_dropWhile_cons_lt rest (continuesWord_of_startsWord isWord))
    refine ((run_foundBy continuesWord (by decide) (c :: rest)).tail noBreak fewer).imp
      fun short left within run => ?_
    unfold tokenPiece
    rw [if_neg (noNumber short within), if_pos isWord, run.1, run.2]
    rfl
  rw [if_neg isWord, if_neg isAt] at isPiece
  by_cases isString : c = '"'
  · rw [if_pos isString] at isPiece
    obtain ⟨body, isBody, rfl⟩ := eq_ok_of_map_eq_ok isPiece
    refine (stringBody_foundBy rest body isBody).imp fun short left within isBody => ?_
    unfold tokenPiece
    rw [if_neg (noNumber short within), if_neg isWord, if_neg isAt, if_pos isString, isBody]
    rfl
  rw [if_neg isString] at isPiece
  by_cases isCharacter : c = '\''
  · rw [if_pos isCharacter] at isPiece
    obtain ⟨result, reads, rfl⟩ := eq_ok_of_map_eq_ok isPiece
    refine (characterLiteral_foundBy reads).imp fun short left within reads => ?_
    unfold tokenPiece
    rw [if_neg (noNumber short within), if_neg isWord, if_neg isAt, if_neg isString,
      if_pos isCharacter, reads]
    rfl
  rw [if_neg isCharacter] at isPiece
  split at isPiece
  · cases isPiece
  · next noMark =>
    split at isPiece
    · next result isFixed =>
      obtain rfl := Except.ok.inj isPiece
      have fewer := Nat.le_of_lt_succ (fixedToken?_length isFixed)
      refine ((fixedToken?_foundBy isFixed).tail noBreak fewer).imp
        fun short left within fixed => ?_
      have noMark : ¬ (c = '$' && short.head? == some '"') = true := by
        simp only [Bool.and_eq_true, decide_eq_true_eq, beq_iff_eq, not_and] at noMark ⊢
        exact fun same first => noMark same (head?_of_longer within first)
      unfold tokenPiece
      rw [if_neg (noNumber short within), if_neg isWord, if_neg isAt, if_neg isString,
        if_neg isCharacter, if_neg noMark, fixed]
      rfl
    · cases isPiece

end Storefront.Script.Lexer
